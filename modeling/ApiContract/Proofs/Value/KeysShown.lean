import ApiContract.Proofs.Value.Parts
import ApiContract.Value.TextKeys

/-!
# Values whose keys can be displayed

Keys of a value are replaced by their texts unless one of them, at whatever
depth, cannot be displayed.
-/

namespace ApiContract.Value

/-- Every key of every dictionary in a value can be displayed. -/
def KeysShown (v : Value) : Prop :=
  ∀ entries, v.Contains (.dict entries) → ∀ e ∈ entries, e.1.display?.isSome = true

/-- All keys in a list can be displayed if all in its items can. -/
@[simp]
theorem keysShown_list_iff {items : List Value} :
    (list items).KeysShown ↔ ∀ v ∈ items, v.KeysShown := by
  constructor
  · intro shown v member entries inside
    exact shown entries (.item member inside)
  · intro shown entries inside
    rcases contains_list_iff.mp inside with equal | ⟨v, member, deeper⟩
    · cases equal
    · exact shown v member entries deeper

/-- All keys in a dictionary can be displayed if its own can and all in what it holds. -/
@[simp]
theorem keysShown_dict_iff {entries : List (Value × Value)} :
    (dict entries).KeysShown ↔ ∀ e ∈ entries, e.1.display?.isSome = true ∧ e.2.KeysShown := by
  constructor
  · intro shown e member
    constructor
    · exact shown entries (.here _) e member
    · intro inner inside
      exact shown inner (.entry member inside)
  · intro shown others inside e member
    rcases contains_dict_iff.mp inside with equal | ⟨first, listed, deeper⟩
    · cases equal
      exact (shown e member).1
    · exact (shown first listed).2 others deeper e member

/-- There is no key in anything else. -/
theorem keysShown_of_leaf {v : Value} (noList : ∀ items, v ≠ .list items)
    (noDict : ∀ entries, v ≠ .dict entries) : v.KeysShown := by
  intro entries inside
  rw [contains_iff_of_leaf noList noDict] at inside
  exact absurd inside.symm (noDict entries)

@[simp]
theorem keysShown_str (s : String) : (str s).KeysShown :=
  keysShown_of_leaf (by simp) (by simp)

@[simp]
theorem keysShown_bool (b : Bool) : (bool b).KeysShown :=
  keysShown_of_leaf (by simp) (by simp)

@[simp]
theorem keysShown_null : null.KeysShown :=
  keysShown_of_leaf (by simp) (by simp)

@[simp]
theorem keysShown_record_iff {entries : Entries String Value} :
    (record entries).KeysShown ↔ ∀ e ∈ entries, e.2.KeysShown := by
  rw [record, keysShown_dict_iff, List.forall_mem_map]
  exact forall₂_congr fun e _ => and_iff_right rfl

theorem isSome_itemsWithTextKeys?_iff {items : List Value} :
    (itemsWithTextKeys? items).isSome = true ↔ ∀ v ∈ items, v.withTextKeys?.isSome = true := by
  induction items with
  | nil => simp [itemsWithTextKeys?]
  | cons v rest ih =>
      rw [List.forall_mem_cons, ← ih, itemsWithTextKeys?]
      cases v.withTextKeys? <;> cases itemsWithTextKeys? rest <;> simp

theorem isSome_entriesWithTextKeys?_iff {entries : List (Value × Value)} :
    (entriesWithTextKeys? entries).isSome = true ↔
      ∀ e ∈ entries, e.1.display?.isSome = true ∧ e.2.withTextKeys?.isSome = true := by
  induction entries with
  | nil => simp [entriesWithTextKeys?]
  | cons e rest ih =>
      rcases e with ⟨k, v⟩
      rw [List.forall_mem_cons, ← ih, entriesWithTextKeys?, ← isSome_displayed?]
      cases k.displayed? <;> cases v.withTextKeys? <;> cases entriesWithTextKeys? rest <;> simp

/-- Keys are replaced by their texts exactly if all of them can be displayed. -/
theorem isSome_withTextKeys?_iff {v : Value} : v.withTextKeys?.isSome = true ↔ v.KeysShown := by
  induction v using Value.induction with
  | list items ih =>
      rw [withTextKeys?, Option.isSome_map, isSome_itemsWithTextKeys?_iff, keysShown_list_iff]
      exact forall₂_congr ih
  | dict entries ih =>
      rw [withTextKeys?, Option.isSome_map, isSome_entriesWithTextKeys?_iff, keysShown_dict_iff]
      exact forall₂_congr fun e member => and_congr_right fun _ => ih e.1 e.2 member
  | leaf v noList noDict =>
      refine iff_of_true ?_ (keysShown_of_leaf noList noDict)
      cases v with
      | list items => exact absurd rfl (noList items)
      | dict entries => exact absurd rfl (noDict entries)
      | _ => rfl

end ApiContract.Value
