import ApiContract.Proofs.Value.KeysShown
import ApiContract.Proofs.Value.Leaves
import ApiContract.Schema.Type

/-!
# Values like those of JSON

A value is like one of JSON if it is made of null, booleans, texts and numbers
that have a text, in lists and in dictionaries, where they are the keys as well.
Every such value has a text, and so has every key in it.
-/

namespace ApiContract.Value

/-- The leaves of a value and the keys of its dictionaries are null, booleans, texts and numbers
that have a text. -/
abbrev JsonLike (v : Value) : Prop :=
  v.Throughout isPrimitive

theorem isSome_quoted?_of_isPrimitive {v : Value} (primitive : v.isPrimitive = true) :
    v.quoted?.isSome = true := by
  cases v with
  | int n => exact primitive
  | null | bool | float | str | unpaired => rfl
  | _ => cases primitive

/-- Null, booleans, texts and numbers can be displayed. -/
theorem isSome_display?_of_isPrimitive {v : Value} (primitive : v.isPrimitive = true) :
    v.display?.isSome = true := by
  cases v with
  | int n => exact primitive
  | null | bool | float | str | unpaired => rfl
  | _ => cases primitive

theorem isSome_quotedItems?_iff {items : List Value} :
    (quotedItems? items).isSome = true ↔ ∀ v ∈ items, v.quoted?.isSome = true := by
  induction items with
  | nil => simp [quotedItems?]
  | cons v rest ih =>
      rw [List.forall_mem_cons, ← ih, quotedItems?]
      cases v.quoted? <;> cases quotedItems? rest <;> simp

theorem isSome_quotedEntries?_iff {entries : List (Value × Value)} :
    (quotedEntries? entries).isSome = true ↔
      ∀ e ∈ entries, e.1.quoted?.isSome = true ∧ e.2.quoted?.isSome = true := by
  induction entries with
  | nil => simp [quotedEntries?]
  | cons e rest ih =>
      rcases e with ⟨k, v⟩
      rw [List.forall_mem_cons, ← ih, quotedEntries?]
      cases k.quoted? <;> cases v.quoted? <;> cases quotedEntries? rest <;> simp

/-- What is like a value of JSON has a text inside a list or a dictionary. -/
theorem JsonLike.isSome_quoted? {v : Value} (like : v.JsonLike) : v.quoted?.isSome = true := by
  induction v using Value.induction with
  | list items ih =>
      have each := throughout_list_iff.mp like
      rw [quoted?, Option.isSome_map, isSome_quotedItems?_iff]
      exact fun v member => ih v member (each v member)
  | dict entries ih =>
      have each := throughout_dict_iff.mp like
      rw [quoted?, Option.isSome_map, isSome_quotedEntries?_iff]
      exact fun e member =>
        ⟨isSome_quoted?_of_isPrimitive (each e member).1, ih e.1 e.2 member (each e member).2⟩
  | leaf v noList noDict =>
      exact isSome_quoted?_of_isPrimitive ((throughout_iff_of_leaf noList noDict).mp like)

/-- What is like a value of JSON can be displayed. -/
theorem JsonLike.isSome_display? {v : Value} (like : v.JsonLike) : v.display?.isSome = true := by
  have quoted := like.isSome_quoted?
  cases v with
  | str s => rfl
  | tag t => rfl
  | component name => rfl
  | _ => exact quoted

/-- All keys in what is like a value of JSON can be displayed. -/
theorem JsonLike.keysShown {v : Value} (like : v.JsonLike) : v.KeysShown :=
  fun entries inside e member => isSome_display?_of_isPrimitive (like.keys entries inside e member)

/-- A member of a union that is like a value of JSON can be displayed. -/
theorem JsonLike.isSome_normalized? {v : Value} (like : v.JsonLike) :
    v.normalized?.isSome = true := by
  have displayed := like.isSome_display?
  cases v with
  | null => rfl
  | list members => rfl
  | builtin | tag | component =>
      have primitive := (throughout_iff_of_leaf (by simp) (by simp)).mp like
      cases primitive
  | unpaired => rfl
  | bool | int | float | str | dict =>
      rw [normalized?.eq_def]
      exact (isSome_displayed? _).trans displayed

end ApiContract.Value
