import ApiContract.Proofs.Value.Parts
import ApiContract.Proofs.Value.TextKeys

/-!
# What values are made of

The leaves of a value are the values in it that are neither lists nor
dictionaries.  Replacing keys by their texts leaves them alone, and every
dictionary in the result has different texts for keys.
-/

namespace ApiContract

/-- A whole number has a text exactly if its digits are not too many. -/
theorem Number.isSome_intText?_iff {n : Int} :
    (Number.intText? n).isSome = true ↔ n.natAbs < Number.digitCeiling := by
  rw [Number.intText?]
  split <;> simp_all

namespace Value

/-- Every value in a value that is neither a list nor a dictionary is of some kind. -/
def Leaves (kind : Value → Bool) (v : Value) : Prop :=
  ∀ w, v.Contains w → (∀ items, w ≠ .list items) → (∀ entries, w ≠ .dict entries) → kind w = true

variable {kind : Value → Bool}

/-- The leaves of a list are those of its items. -/
@[simp]
theorem leaves_list_iff {items : List Value} :
    (list items).Leaves kind ↔ ∀ v ∈ items, v.Leaves kind := by
  constructor
  · intro leaves v member w inside
    exact leaves w (.item member inside)
  · intro leaves w inside noList noDict
    rcases contains_list_iff.mp inside with equal | ⟨v, member, deeper⟩
    · exact absurd equal (noList items)
    · exact leaves v member w deeper noList noDict

/-- The leaves of a dictionary are those of what it holds. -/
@[simp]
theorem leaves_dict_iff {entries : List (Value × Value)} :
    (dict entries).Leaves kind ↔ ∀ e ∈ entries, e.2.Leaves kind := by
  constructor
  · intro leaves e member w inside
    exact leaves w (.entry member inside)
  · intro leaves w inside noList noDict
    rcases contains_dict_iff.mp inside with equal | ⟨e, member, deeper⟩
    · exact absurd equal (noDict entries)
    · exact leaves e member w deeper noList noDict

/-- Anything else is its only leaf. -/
theorem leaves_iff_of_leaf {v : Value} (noList : ∀ items, v ≠ .list items)
    (noDict : ∀ entries, v ≠ .dict entries) : v.Leaves kind ↔ kind v = true := by
  constructor
  · intro leaves
    exact leaves v (.here v) noList noDict
  · intro holds w inside _ _
    rw [contains_iff_of_leaf noList noDict] at inside
    exact inside ▸ holds

/-- Only lists and dictionaries have keys in them. -/
theorem withTextKeys?_of_leaf {v : Value} (noList : ∀ items, v ≠ .list items)
    (noDict : ∀ entries, v ≠ .dict entries) : v.withTextKeys? = some v := by
  cases v with
  | list items => exact absurd rfl (noList items)
  | dict entries => exact absurd rfl (noDict entries)
  | _ => rfl

/-- Leaves stay when keys are replaced by their texts. -/
theorem Leaves.withTextKeys {v w : Value} (leaves : v.Leaves kind)
    (converted : v.withTextKeys? = some w) : w.Leaves kind := by
  intro y inside noList noDict
  obtain ⟨x, within, becomes⟩ := inside.origin converted
  cases x with
  | list items =>
      rw [withTextKeys?, Option.map_eq_some_iff] at becomes
      obtain ⟨shown, -, rfl⟩ := becomes
      exact absurd rfl (noList shown)
  | dict entries =>
      rw [withTextKeys?, Option.map_eq_some_iff] at becomes
      obtain ⟨texts, -, rfl⟩ := becomes
      exact absurd rfl (noDict _)
  | _ =>
      cases becomes
      exact leaves _ within noList noDict

/-! ### Dictionaries under texts -/

/-- Every dictionary in a value has different texts for keys. -/
def Recorded (v : Value) : Prop :=
  ∀ entries, v.Contains (.dict entries) →
    (∀ e ∈ entries, e.1.isString = true) ∧ (Entries.keys entries).Nodup

theorem Recorded.item {items : List Value} (recorded : (list items).Recorded) {v : Value}
    (member : v ∈ items) : v.Recorded :=
  fun entries inside => recorded entries (.item member inside)

theorem Recorded.entry {entries : List (Value × Value)} (recorded : (dict entries).Recorded)
    {e : Value × Value} (member : e ∈ entries) : e.2.Recorded :=
  fun inner inside => recorded inner (.entry member inside)

/-- Keys that are replaced by their texts are different texts. -/
theorem recorded_of_withTextKeys? {v w : Value} (converted : v.withTextKeys? = some w) :
    w.Recorded := by
  intro entries inside
  obtain ⟨x, -, becomes⟩ := inside.origin converted
  obtain ⟨sources, texts, rfl, textsEq, rfl⟩ := eq_dict_of_withTextKeys? becomes
  refine ⟨fun e member => ?_, Entries.nodup_keys_ofList texts⟩
  exact isString_of_mem_entriesWithTextKeys? textsEq e (Entries.mem_ofList member)

/-! ### Kinds of leaves -/

@[simp]
theorem leaves_null_iff : Value.null.Leaves kind ↔ kind .null = true :=
  leaves_iff_of_leaf (by simp) (by simp)

@[simp]
theorem leaves_bool_iff {b : Bool} : (bool b).Leaves kind ↔ kind (.bool b) = true :=
  leaves_iff_of_leaf (by simp) (by simp)

@[simp]
theorem leaves_int_iff {n : Int} : (int n).Leaves kind ↔ kind (.int n) = true :=
  leaves_iff_of_leaf (by simp) (by simp)

@[simp]
theorem leaves_str_iff {s : String} : (str s).Leaves kind ↔ kind (.str s) = true :=
  leaves_iff_of_leaf (by simp) (by simp)

/-- Whether a value is null, a boolean, a text of characters or a whole number that has a text. -/
def isLiteral : Value → Bool
  | .null | .bool _ | .str _ => true
  | .int n => (Number.intText? n).isSome
  | _ => false

/-- Whether a value is null, a boolean, a text or a number that has a text. -/
def isPrimitive : Value → Bool
  | .float _ | .unpaired _ => true
  | v => v.isLiteral

/-- Whether a value is no text that is none of characters. -/
def isWhole : Value → Bool
  | .unpaired _ => false
  | _ => true

theorem isPrimitive_of_isLiteral {v : Value} (literal : v.isLiteral = true) :
    v.isPrimitive = true := by
  cases v with
  | float | unpaired => rfl
  | _ => exact literal

theorem isPrimitive_of_isString {v : Value} (string : v.isString = true) :
    v.isPrimitive = true := by
  cases v with
  | str | unpaired => rfl
  | _ => cases string

/-- A text is one of characters unless it is none. -/
theorem exists_str_of_isString {v : Value} (string : v.isString = true)
    (whole : v.isWhole = true) : ∃ s, v = .str s := by
  cases v with
  | str s => exact ⟨s, rfl⟩
  | unpaired => cases whole
  | _ => cases string

/-- What displays as a text that is none of characters is this text. -/
theorem isWhole_of_displayed? {v text : Value} (whole : v.isWhole = true)
    (shown : v.displayed? = some text) : text.isWhole = true := by
  rw [displayed?_of_ne (by rintro codes rfl; cases whole)] at shown
  obtain ⟨s, -, rfl⟩ := Option.map_eq_some_iff.mp shown
  rfl

/-! ### Leaves and keys -/

/-- The leaves of a value and the keys of its dictionaries are of some kind. -/
structure Throughout (kind : Value → Bool) (v : Value) : Prop where
  leaves : v.Leaves kind
  keys : ∀ entries, v.Contains (.dict entries) → ∀ e ∈ entries, kind e.1 = true

/-- A list is made of some kind throughout if its items are. -/
@[simp]
theorem throughout_list_iff {items : List Value} :
    (list items).Throughout kind ↔ ∀ v ∈ items, v.Throughout kind := by
  constructor
  · intro all v member
    exact ⟨leaves_list_iff.mp all.leaves v member,
      fun entries inside => all.keys entries (.item member inside)⟩
  · intro each
    refine ⟨leaves_list_iff.mpr fun v member => (each v member).leaves, ?_⟩
    intro entries inside
    rcases contains_list_iff.mp inside with equal | ⟨v, member, deeper⟩
    · cases equal
    · exact (each v member).keys entries deeper

/-- A dictionary is if its keys are of this kind and what it holds is made of it. -/
@[simp]
theorem throughout_dict_iff {entries : List (Value × Value)} :
    (dict entries).Throughout kind ↔
      ∀ e ∈ entries, kind e.1 = true ∧ e.2.Throughout kind := by
  constructor
  · intro all e member
    exact ⟨all.keys entries (.here _) e member, leaves_dict_iff.mp all.leaves e member,
      fun inner inside => all.keys inner (.entry member inside)⟩
  · intro each
    refine ⟨leaves_dict_iff.mpr fun e member => (each e member).2.leaves, ?_⟩
    intro inner inside
    rcases contains_dict_iff.mp inside with equal | ⟨e, member, deeper⟩
    · cases equal
      exact fun e member => (each e member).1
    · exact (each e member).2.keys inner deeper

/-- Anything else is if it is of this kind. -/
theorem throughout_iff_of_leaf {v : Value} (noList : ∀ items, v ≠ .list items)
    (noDict : ∀ entries, v ≠ .dict entries) : v.Throughout kind ↔ kind v = true := by
  constructor
  · intro all
    exact (leaves_iff_of_leaf noList noDict).mp all.leaves
  · intro holds
    refine ⟨(leaves_iff_of_leaf noList noDict).mpr holds, ?_⟩
    intro entries inside
    exact absurd ((contains_iff_of_leaf noList noDict).mp inside).symm (noDict entries)

@[simp]
theorem throughout_null_iff : Value.null.Throughout kind ↔ kind .null = true :=
  throughout_iff_of_leaf (by simp) (by simp)

@[simp]
theorem throughout_bool_iff {b : Bool} : (bool b).Throughout kind ↔ kind (.bool b) = true :=
  throughout_iff_of_leaf (by simp) (by simp)

@[simp]
theorem throughout_int_iff {n : Int} : (int n).Throughout kind ↔ kind (.int n) = true :=
  throughout_iff_of_leaf (by simp) (by simp)

@[simp]
theorem throughout_str_iff {s : String} : (str s).Throughout kind ↔ kind (.str s) = true :=
  throughout_iff_of_leaf (by simp) (by simp)

/-- A value without texts that are none of characters still has none when keys are replaced by
their texts. -/
theorem Throughout.withTextKeys {v w : Value} (whole : v.Throughout isWhole)
    (converted : v.withTextKeys? = some w) : w.Throughout isWhole := by
  refine ⟨whole.leaves.withTextKeys converted, fun entries inside => ?_⟩
  obtain ⟨source, within, becomes⟩ := inside.origin converted
  obtain ⟨sources, texts, rfl, textsEq, rfl⟩ := eq_dict_of_withTextKeys? becomes
  rintro ⟨key, y⟩ member
  obtain ⟨k, x, listed, shown, -⟩ := mem_entriesWithTextKeys? textsEq (Entries.mem_ofList member)
  exact isWhole_of_displayed? (whole.keys _ within _ listed) shown

end Value

end ApiContract
