import ApiContract.Value.Basic

/-!
# Values in values

A value stands in a list if it is one of the items or stands in one, and in a
dictionary if it is held there under some key or stands in what is.  What is
asked of given data is asked of every value that stands in them.
-/

namespace ApiContract.Value

/-- What holds of a list whenever it holds of its items, of a dictionary whenever it holds
of what is held there, and of all other values, holds of every value. -/
@[elab_as_elim]
theorem induction {motive : Value → Prop}
    (list : ∀ items, (∀ v ∈ items, motive v) → motive (.list items))
    (dict : ∀ entries, (∀ k v, (k, v) ∈ entries → motive v) → motive (.dict entries))
    (leaf : ∀ v, (∀ items, v ≠ .list items) → (∀ entries, v ≠ .dict entries) → motive v)
    (v : Value) : motive v :=
  @Value.rec motive (fun items => ∀ v ∈ items, motive v)
    (fun entries => ∀ k v, (k, v) ∈ entries → motive v) (fun entry => motive entry.2)
    (leaf _ (by simp) (by simp)) (fun _ => leaf _ (by simp) (by simp))
    (fun _ => leaf _ (by simp) (by simp)) (fun _ => leaf _ (by simp) (by simp))
    (fun _ => leaf _ (by simp) (by simp)) (fun _ => leaf _ (by simp) (by simp))
    list dict (fun _ => leaf _ (by simp) (by simp)) (fun _ => leaf _ (by simp) (by simp))
    (fun _ => leaf _ (by simp) (by simp))
    (by simp) (fun _ _ head tail => List.forall_mem_cons.mpr ⟨head, tail⟩)
    (by simp)
    (fun _ _ head tail k v member => by
      rcases List.mem_cons.mp member with rfl | later
      · exact head
      · exact tail k v later)
    (fun _ _ _ value => value) v

/-- A value stands in itself, in lists with an item in which it stands, and in
dictionaries that hold something in which it stands. -/
inductive Contains : Value → Value → Prop
  | here (v : Value) : Contains v v
  | item {items : List Value} {v w : Value} (member : v ∈ items) (inside : Contains v w) :
      Contains (.list items) w
  | entry {entries : List (Value × Value)} {k v w : Value} (member : (k, v) ∈ entries)
      (inside : Contains v w) : Contains (.dict entries) w

/-- What stands in a list is the list, or stands in an item. -/
@[simp]
theorem contains_list_iff {items : List Value} {w : Value} :
    (list items).Contains w ↔ w = .list items ∨ ∃ v ∈ items, v.Contains w := by
  constructor
  · intro contained
    cases contained with
    | here => exact Or.inl rfl
    | item member inside => exact Or.inr ⟨_, member, inside⟩
  · rintro (rfl | ⟨v, member, inside⟩)
    · exact .here _
    · exact .item member inside

/-- What stands in a dictionary is the dictionary, or stands in what is held there. -/
@[simp]
theorem contains_dict_iff {entries : List (Value × Value)} {w : Value} :
    (dict entries).Contains w ↔ w = .dict entries ∨ ∃ e ∈ entries, e.2.Contains w := by
  constructor
  · intro contained
    cases contained with
    | here => exact Or.inl rfl
    | entry member inside => exact Or.inr ⟨_, member, inside⟩
  · rintro (rfl | ⟨e, member, inside⟩)
    · exact .here _
    · exact .entry member inside

/-- Nothing else stands in a value that is neither a list nor a dictionary. -/
theorem contains_iff_of_leaf {v w : Value} (noList : ∀ items, v ≠ .list items)
    (noDict : ∀ entries, v ≠ .dict entries) : v.Contains w ↔ w = v := by
  constructor
  · intro contained
    cases contained with
    | here => rfl
    | item => exact absurd rfl (noList _)
    | entry => exact absurd rfl (noDict _)
  · rintro rfl
    exact .here _

/-- Whether a value is a text, of characters or not. -/
def isText : Value → Bool
  | .str _ | .tag _ | .unpaired _ => true
  | _ => false

/-- All keys of all dictionaries in a value are texts. -/
def TextKeyed (v : Value) : Prop :=
  ∀ entries, v.Contains (.dict entries) → ∀ e ∈ entries, e.1.isText = true

theorem TextKeyed.keys {entries : List (Value × Value)} (keyed : (dict entries).TextKeyed) :
    ∀ e ∈ entries, e.1.isText = true :=
  keyed entries (.here _)

theorem TextKeyed.entry {entries : List (Value × Value)} (keyed : (dict entries).TextKeyed)
    {k v : Value} (member : (k, v) ∈ entries) : v.TextKeyed :=
  fun inner inside => keyed inner (.entry member inside)

/-- Whether a value is a text of its own, and no tag that is written as one. -/
def isString : Value → Bool
  | .str _ | .unpaired _ => true
  | _ => false

/-- Data are plain if they are made of null, booleans, numbers, texts, lists and
dictionaries, with different texts for keys. -/
def Plain (v : Value) : Prop :=
  ∀ w, v.Contains w →
    match w with
    | .builtin _ | .tag _ | .component _ => False
    | .dict entries => (∀ e ∈ entries, e.1.isString = true) ∧ (Entries.keys entries).Nodup
    | _ => True

theorem isText_of_isString {v : Value} (string : v.isString = true) : v.isText = true := by
  cases v <;> first | rfl | simp [isString] at string

/-- A text is neither a list nor a dictionary. -/
theorem leaf_of_isString {v : Value} (string : v.isString = true) :
    (∀ items, v ≠ .list items) ∧ ∀ entries, v ≠ .dict entries := by
  cases v <;> simp_all [isString]

theorem Plain.item {items : List Value} (plain : (list items).Plain) {v : Value}
    (member : v ∈ items) : v.Plain :=
  fun w inside => plain w (.item member inside)

theorem Plain.entry {entries : List (Value × Value)} (plain : (dict entries).Plain)
    {k v : Value} (member : (k, v) ∈ entries) : v.Plain :=
  fun w inside => plain w (.entry member inside)

theorem Plain.strings {entries : List (Value × Value)} (plain : (dict entries).Plain) :
    ∀ e ∈ entries, e.1.isString = true :=
  (plain _ (.here _)).1

theorem Plain.keys {entries : List (Value × Value)} (plain : (dict entries).Plain) :
    (Entries.keys entries).Nodup :=
  (plain _ (.here _)).2

end ApiContract.Value
