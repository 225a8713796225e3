import ApiContract.Proofs.Attempt
import ApiContract.Proofs.Value.Leaves
import ApiContract.Yaml.Writer

/-!
# What can be written in the second format

Null, booleans, texts and numbers that have a text are scalars.  A value that is
made of them, in lists and in dictionaries under texts, can be written.
-/

namespace ApiContract.Yaml

open Value (Leaves isPrimitive Recorded)

/-- A whole number that has a text is a scalar. -/
theorem scalar_int {n : Int} {text : String} (textEq : Number.intText? n = some text) :
    scalar (.int n) = .ok (.ofText text.toList false 5) := by
  unfold scalar
  dsimp only
  split
  · rename_i found
    cases textEq.symm.trans found
    rfl
  · rename_i missing
    cases textEq.symm.trans missing

/-- Null, booleans, texts and numbers that have a text are scalars. -/
theorem exists_scalar {v : Value} (primitive : v.isPrimitive = true) :
    ∃ s, scalar v = .ok s := by
  cases v with
  | int n =>
      simp only [isPrimitive, Value.isLiteral] at primitive
      rcases Option.isSome_iff_exists.mp primitive with ⟨text, textEq⟩
      exact ⟨_, scalar_int textEq⟩
  | null | bool | float | str | unpaired => exact ⟨_, rfl⟩
  | _ => cases primitive

/-- Items can be written if each of them can. -/
theorem exists_writeItems {items : List Value}
    (each : ∀ v ∈ items, ∀ mark parent, ∃ cs, writeValue mark parent v = .ok cs) (column : Nat) :
    ∃ cs, writeItems column items = .ok cs := by
  induction items with
  | nil => exact ⟨_, rfl⟩
  | cons v vs ih =>
      rcases List.forall_mem_cons.mp each with ⟨first, others⟩
      rw [writeItems]
      apply Attempt.exists_do (first _ _)
      intro head
      apply Attempt.exists_do (ih others)
      intro tail
      exact ⟨_, rfl⟩

/-- Entries can be written if what each of them holds can, and their keys are texts. -/
theorem exists_writeEntries {entries : List (Value × Value)}
    (texts : ∀ e ∈ entries, e.1.isString = true)
    (each : ∀ e ∈ entries, ∀ mark parent, ∃ cs, writeValue mark parent e.2 = .ok cs)
    (column : Nat) : ∃ cs, writeEntries column entries = .ok cs := by
  induction entries with
  | nil => exact ⟨_, rfl⟩
  | cons e es ih =>
      rcases List.forall_mem_cons.mp each with ⟨first, others⟩
      rcases List.forall_mem_cons.mp texts with ⟨string, otherTexts⟩
      rw [writeEntries]
      apply Attempt.exists_do (exists_scalar (Value.isPrimitive_of_isString string))
      intro key
      apply Attempt.exists_do (first _ _)
      intro head
      apply Attempt.exists_do (ih otherTexts others)
      intro tail
      exact ⟨_, rfl⟩

/-- A scalar can be written after every mark. -/
theorem exists_writeValue_of_leaf {v : Value} (noList : ∀ items, v ≠ .list items)
    (noDict : ∀ entries, v ≠ .dict entries) (primitive : v.isPrimitive = true) (mark : Mark)
    (parent : Nat) : ∃ cs, writeValue mark parent v = .ok cs := by
  rcases exists_scalar primitive with ⟨s, scalarEq⟩
  refine ⟨mark.scalar parent s, ?_⟩
  rw [writeValue, scalarEq]
  · rfl
  · exact noList []
  · exact noDict []
  · exact fun v vs => noList (v :: vs)
  · exact fun k v es => noDict ((k, v) :: es)

/-- A value of null, booleans, texts and numbers under texts can be written after every mark. -/
theorem exists_writeValue {v : Value} (primitive : v.Leaves isPrimitive) (recorded : v.Recorded)
    (mark : Mark) (parent : Nat) : ∃ cs, writeValue mark parent v = .ok cs := by
  induction v using Value.induction generalizing mark parent with
  | list items ih =>
      rw [Value.leaves_list_iff] at primitive
      cases items with
      | nil => exact ⟨_, rfl⟩
      | cons w ws =>
          rw [writeValue]
          apply Attempt.exists_do
          · exact ih w List.mem_cons_self (primitive w List.mem_cons_self)
              (recorded.item List.mem_cons_self) _ _
          intro head
          apply Attempt.exists_do
          · apply exists_writeItems
            intro v later
            have member : v ∈ w :: ws := List.mem_cons_of_mem _ later
            exact ih v member (primitive v member) (recorded.item member)
          intro tail
          exact ⟨_, rfl⟩
  | dict entries ih =>
      rw [Value.leaves_dict_iff] at primitive
      rcases recorded _ (.here _) with ⟨texts, -⟩
      cases entries with
      | nil => exact ⟨_, rfl⟩
      | cons e es =>
          rcases List.forall_mem_cons.mp texts with ⟨string, otherTexts⟩
          rw [writeValue]
          apply Attempt.exists_do (exists_scalar (Value.isPrimitive_of_isString string))
          intro key
          apply Attempt.exists_do
          · exact ih e.1 e.2 List.mem_cons_self (primitive e List.mem_cons_self)
              (recorded.entry List.mem_cons_self) _ _
          intro head
          apply Attempt.exists_do
          · apply exists_writeEntries otherTexts
            intro f later
            have member : f ∈ e :: es := List.mem_cons_of_mem _ later
            exact ih f.1 f.2 member (primitive f member) (recorded.entry member)
          intro tail
          exact ⟨_, rfl⟩
  | leaf v noList noDict =>
      rw [Value.leaves_iff_of_leaf noList noDict] at primitive
      exact exists_writeValue_of_leaf noList noDict primitive mark parent

/-- A value of null, booleans, texts and numbers under texts has a text. -/
theorem exists_text {v : Value} (primitive : v.Leaves isPrimitive) (recorded : v.Recorded) :
    ∃ s, text v = .ok s := by
  have written : ∃ cs, write v = .ok cs := by
    cases v with
    | list items =>
        rw [Value.leaves_list_iff] at primitive
        cases items with
        | nil => exact ⟨_, rfl⟩
        | cons w ws =>
            have each : ∀ v ∈ w :: ws, ∀ mark parent, ∃ cs, writeValue mark parent v = .ok cs :=
              fun v member => exists_writeValue (primitive v member) (recorded.item member)
            rcases exists_writeItems each 0 with ⟨cs, written⟩
            exact ⟨cs.drop 1 ++ ['\n'], by simp only [write, written, Attempt.map_ok]⟩
    | dict entries =>
        rw [Value.leaves_dict_iff] at primitive
        cases entries with
        | nil => exact ⟨_, rfl⟩
        | cons e es =>
            have each : ∀ f ∈ e :: es, ∀ mark parent, ∃ cs, writeValue mark parent f.2 = .ok cs :=
              fun f member => exists_writeValue (primitive f member) (recorded.entry member)
            rcases exists_writeEntries (recorded _ (.here _)).1 each 0 with ⟨cs, written⟩
            exact ⟨cs.drop 1 ++ ['\n'], by simp only [write, written, Attempt.map_ok]⟩
    | _ =>
        rw [Value.leaves_iff_of_leaf (by simp) (by simp)] at primitive
        rcases exists_scalar primitive with ⟨s, scalarEq⟩
        exact ⟨writeRoot s, by simp only [write, scalarEq, Attempt.map_ok]⟩
  rcases written with ⟨cs, written⟩
  exact ⟨String.ofList cs, by rw [text, written, Attempt.map_ok]⟩

end ApiContract.Yaml
