import ApiContract.Proofs.Schema.Tree
import ApiContract.Proofs.Validator.Rule
import ApiContract.Proofs.Value.HandedOut

/-!
# Violations

A violation is a required field that is missing, or a value that its own field
refuses as a whole, in the data or in what the data hold for a field that is a
model.  The problems that checking finds are the violations: what is wrong with a
single value follows from the shape of its field, and what is wrong with the values
of models from the fields below.
-/

namespace ApiContract

/-- A field refuses a value as a whole.  `model` names the field in messages. -/
inductive Refuses (numbers : NumberKind) (model : String) (slot : Slot Node) (v : Value) :
    DataFault → Prop
  | record (isModel : slot.content.IsModel) (other : ∀ entries, v ≠ .dict entries) :
      Refuses numbers model slot v (.notRecord model)
  | dictionary (takes : slot.content.TakesDictionary) (other : ∀ entries, v ≠ .dict entries) :
      Refuses numbers model slot v .notDictionary
  | list (takes : slot.content.TakesList) (other : v.listed? = none) :
      Refuses numbers model slot v .notList
  | scalar {fault : DataFault} (shape : slot.content.shape = .scalar)
      (notTaken : ¬(v = .null ∧ TakesNull slot))
      (uncoerced : (ScalarKind.of slot.content.facets.type).coerce numbers v = .error fault) :
      Refuses numbers model slot v fault

/-- A violation of some fields by the entries of a dictionary, with the path to it. -/
inductive Violation (numbers : NumberKind) :
    String → Entries String (Slot Node) → List (Value × Value) → List String → DataFault → Prop
  | missing {model name : String} {fields : Entries String (Slot Node)}
      {entries : List (Value × Value)} {slot : Slot Node} (declared : (name, slot) ∈ fields)
      (required : slot.required = true) (absent : Value.lookup? entries name = none) :
      Violation numbers model fields entries [name] .missing
  | refused {model name : String} {fields : Entries String (Slot Node)}
      {entries : List (Value × Value)} {slot : Slot Node} {v : Value} {fault : DataFault}
      (declared : (name, slot) ∈ fields) (present : Value.lookup? entries name = some v)
      (refuses : Refuses numbers (model ++ "_" ++ name) slot v fault) :
      Violation numbers model fields entries [name] fault
  | inside {model name : String} {fields : Entries String (Slot Node)}
      {entries inner : List (Value × Value)} {slot : Slot Node} {path : List String}
      {fault : DataFault} (declared : (name, slot) ∈ fields) (isModel : slot.content.IsModel)
      (present : Value.lookup? entries name = some (.dict inner))
      (further : Violation numbers (model ++ "_" ++ name) slot.content.properties inner path
        fault) :
      Violation numbers model fields entries (name :: path) fault

/-! ### The problems of single values -/

/-- The problems for which a value is refused. -/
def refusals (taken : Except (List DataProblem) Value) : List DataProblem :=
  match taken with
  | .ok _ => []
  | .error problems => problems

@[simp]
theorem refusals_ok (v : Value) : refusals (.ok v) = [] :=
  rfl

@[simp]
theorem refusals_error (problems : List DataProblem) : refusals (.error problems) = problems :=
  rfl

/-- Fields that are checked are refused for their problems. -/
@[simp]
theorem refusals_toExcept (taken : Taken) : refusals taken.toExcept = taken.problems := by
  cases outcome : taken.toExcept with
  | ok w => exact (Taken.toExcept_eq_ok_iff.mp outcome).1.symm
  | error problems => exact (Taken.toExcept_eq_error_iff.mp outcome).2.symm

namespace Value

/-- What is found under a text is held under some key. -/
theorem exists_mem_of_lookup? {entries : List (Value × Value)} {name : String} {v : Value}
    (found : lookup? entries name = some v) : ∃ k, (k, v) ∈ entries := by
  obtain ⟨⟨k, w⟩, entry, rfl⟩ := Option.map_eq_some_iff.mp found
  exact ⟨k, List.mem_of_find?_eq_some entry⟩

theorem TextKeyed.found {entries : List (Value × Value)} (keyed : (dict entries).TextKeyed)
    {name : String} {v : Value} (found : lookup? entries name = some v) : v.TextKeyed := by
  obtain ⟨k, member⟩ := exists_mem_of_lookup? found
  exact keyed.entry member

end Value

/-! ### Refusal by shape -/

section

variable {numbers : NumberKind} {model : String} (slot : Slot Node) {v : Value} {fault : DataFault}

/-- A model refuses whatever is no dictionary. -/
theorem refuses_iff_of_isModel (isModel : slot.content.IsModel) :
    Refuses numbers model slot v fault ↔ (∀ es, v ≠ .dict es) ∧ fault = .notRecord model := by
  have ⟨shape, nonempty⟩ := isModel
  constructor
  · intro refuses
    cases refuses with
    | record _ other => exact ⟨other, rfl⟩
    | dictionary takes => simp [Node.TakesDictionary, shape, nonempty] at takes
    | list takes => simp [Node.TakesList, shape] at takes
    | scalar otherShape => simp [shape] at otherShape
  · rintro ⟨other, rfl⟩
    exact .record isModel other

/-- What is taken for a dictionary refuses whatever is none. -/
theorem refuses_iff_of_takesDictionary (takes : slot.content.TakesDictionary) :
    Refuses numbers model slot v fault ↔ (∀ es, v ≠ .dict es) ∧ fault = .notDictionary := by
  constructor
  · intro refuses
    cases refuses with
    | record isModel =>
        rcases takes with ⟨-, none⟩ | ⟨shape, -⟩
        · exact absurd none isModel.2
        · simp [Node.IsModel, shape] at isModel
    | dictionary _ other => exact ⟨other, rfl⟩
    | list takesList =>
        rcases takes with ⟨shape, -⟩ | ⟨shape, type⟩
        · simp [Node.TakesList, shape] at takesList
        · simp [Node.TakesList, shape, type] at takesList
    | scalar otherShape =>
        rcases takes with ⟨shape, -⟩ | ⟨shape, -⟩ <;> simp [shape] at otherShape
  · rintro ⟨other, rfl⟩
    exact .dictionary takes other

/-- What is taken for a list refuses whatever is none. -/
theorem refuses_iff_of_takesList (takes : slot.content.TakesList) :
    Refuses numbers model slot v fault ↔ v.listed? = none ∧ fault = .notList := by
  constructor
  · intro refuses
    cases refuses with
    | record isModel =>
        rcases takes with shape | ⟨shape, -⟩ <;> simp [Node.IsModel, shape] at isModel
    | dictionary takesDictionary =>
        rcases takes with shape | ⟨shape, type⟩
        · simp [Node.TakesDictionary, shape] at takesDictionary
        · simp [Node.TakesDictionary, shape, type] at takesDictionary
    | list _ other => exact ⟨other, rfl⟩
    | scalar otherShape => rcases takes with shape | ⟨shape, -⟩ <;> simp [shape] at otherShape
  · rintro ⟨other, rfl⟩
    exact .list takes other

/-- A scalar refuses what is not coerced, except for null where it is taken. -/
theorem refuses_iff_of_scalar (shape : slot.content.shape = .scalar) :
    Refuses numbers model slot v fault ↔
      ¬(v = .null ∧ TakesNull slot) ∧
        (ScalarKind.of slot.content.facets.type).coerce numbers v = .error fault := by
  constructor
  · intro refuses
    cases refuses with
    | record isModel => simp [Node.IsModel, shape] at isModel
    | dictionary takes => simp [Node.TakesDictionary, shape] at takes
    | list takes => simp [Node.TakesList, shape] at takes
    | scalar _ notTaken uncoerced => exact ⟨notTaken, uncoerced⟩
  · rintro ⟨notTaken, uncoerced⟩
    exact .scalar shape notTaken uncoerced

/-- A union refuses nothing. -/
theorem not_refuses_of_union (shape : slot.content.shape = .union) :
    ¬Refuses numbers model slot v fault := by
  intro refuses
  cases refuses with
  | record isModel => simp [Node.IsModel, shape] at isModel
  | dictionary takes => simp [Node.TakesDictionary, shape] at takes
  | list takes => simp [Node.TakesList, shape] at takes
  | scalar otherShape => simp [shape] at otherShape

end

/-- A scalar is refused for the fault of its coercion, except for null where it is
taken. -/
theorem refusals_take_scalar (numbers : NumberKind) {slot : Slot Node} (v : Value)
    (shape : slot.content.shape = .scalar) :
    ∃ fault? : Option DataFault,
      refusals ((ScalarKind.of slot.content.facets.type).take numbers slot.required v) =
          (fault?.map (DataProblem.mk [])).toList ∧
        ∀ fault, fault? = some fault ↔
          ¬(v = .null ∧ TakesNull slot) ∧
            (ScalarKind.of slot.content.facets.type).coerce numbers v = .error fault := by
  rw [takesNull_iff shape, ScalarKind.take]
  by_cases taken : v = .null ∧
      (ScalarKind.of slot.content.facets.type).takesNull slot.required = true
  · exact ⟨none, by simp [taken], by simp [taken]⟩
  · rw [if_neg (by simpa [and_comm] using taken)]
    cases coerced : (ScalarKind.of slot.content.facets.type).coerce numbers v with
    | ok w => exact ⟨none, by simp, by simp⟩
    | error fault => exact ⟨some fault, by simp, by simp [taken]⟩

/-- A list is taken, and nothing else is taken for one. -/
theorem refusals_toList (v : Value) :
    ∃ fault? : Option DataFault,
      refusals v.toList = (fault?.map (DataProblem.mk [])).toList ∧
        ∀ fault, fault? = some fault ↔ v.listed? = none ∧ fault = .notList := by
  cases listed : v.listed? with
  | none => exact ⟨some .notList, by simp [Value.toList, listed], by simp [eq_comm]⟩
  | some items => exact ⟨none, by simp [Value.toList, listed], by simp⟩

/-- A dictionary with texts for keys is taken, and nothing else is taken for one. -/
theorem refusals_toDictionary {v : Value} (keyed : v.TextKeyed) :
    ∃ fault? : Option DataFault,
      refusals v.toDictionary = (fault?.map (DataProblem.mk [])).toList ∧
        ∀ fault, fault? = some fault ↔ (∀ es, v ≠ .dict es) ∧ fault = .notDictionary := by
  cases v with
  | dict entries =>
      have fine := Value.keyProblems_eq_nil keyed.keys
      exact ⟨none, by simp [Value.toDictionary, fine], by simp⟩
  | _ => exact ⟨some .notDictionary, rfl, by simp [eq_comm]⟩

/-- A field that is no model refuses a value for one fault, if for any. -/
theorem refusals_take_of_not_isModel (numbers : NumberKind) (model : String) (slot : Slot Node)
    {v : Value} (keyed : v.TextKeyed) (plain : ¬slot.content.IsModel) :
    ∃ fault? : Option DataFault,
      refusals (slot.content.take numbers model slot.required v) =
          (fault?.map (DataProblem.mk [])).toList ∧
        ∀ fault, fault? = some fault ↔ Refuses numbers model slot v fault := by
  rcases slot.content.shape_cases with isModel | takes | takes | shape | shape
  · exact absurd isModel plain
  · simp only [refuses_iff_of_takesList slot takes, Node.take_of_takesList takes]
    exact refusals_toList v
  · simp only [refuses_iff_of_takesDictionary slot takes, Node.take_of_takesDictionary takes]
    exact refusals_toDictionary keyed
  · simp only [not_refuses_of_union slot shape, Node.take_of_union shape]
    exact ⟨none, rfl, by simp⟩
  · simp only [refuses_iff_of_scalar slot shape, Node.take_of_scalar shape]
    exact refusals_take_scalar numbers v shape

/-! ### The problems of trees of fields -/

/-- What is wrong with the value of a field: it is refused as a whole, or its field is a
model and something is wrong in it. -/
def Misfit (numbers : NumberKind) (model : String) (slot : Slot Node) (v : Value)
    (path : List String) (fault : DataFault) : Prop :=
  path = [] ∧ Refuses numbers model slot v fault ∨
    slot.content.IsModel ∧ ∃ inner, v = .dict inner ∧
      Violation numbers model slot.content.properties inner path fault

/-- A violation is that of one field, at or behind its name. -/
theorem violation_iff {numbers : NumberKind} {model : String} {fields : Entries String (Slot Node)}
    {entries : List (Value × Value)} {path : List String} {fault : DataFault} :
    Violation numbers model fields entries path fault ↔
      ∃ name slot, (name, slot) ∈ fields ∧
        (Value.lookup? entries name = none ∧ slot.required = true ∧ path = [name] ∧
            fault = .missing ∨
          ∃ v rest, Value.lookup? entries name = some v ∧ path = name :: rest ∧
            Misfit numbers (model ++ "_" ++ name) slot v rest fault) := by
  constructor
  · intro violation
    cases violation with
    | missing declared required absent =>
        exact ⟨_, _, declared, Or.inl ⟨absent, required, rfl, rfl⟩⟩
    | refused declared present refuses =>
        exact ⟨_, _, declared, Or.inr ⟨_, [], present, rfl, Or.inl ⟨rfl, refuses⟩⟩⟩
    | inside declared isModel present further =>
        exact ⟨_, _, declared, Or.inr ⟨_, _, present, rfl, Or.inr ⟨isModel, _, rfl, further⟩⟩⟩
  · rintro ⟨name, slot, declared, ⟨absent, required, rfl, rfl⟩ | ⟨v, rest, present, rfl, misfit⟩⟩
    · exact .missing declared required absent
    · rcases misfit with ⟨rfl, refuses⟩ | ⟨isModel, inner, rfl, further⟩
      · exact .refused declared present refuses
      · exact .inside declared isModel present further

/-- The problems of one field with the entries of a dictionary. -/
def fieldProblems (numbers : NumberKind) (model : String) (entries : List (Value × Value))
    (field : String × Slot Node) : List DataProblem :=
  match Value.lookup? entries field.1 with
  | none => if field.2.required then [⟨[field.1], .missing⟩] else []
  | some v =>
      (refusals (field.2.content.take numbers (model ++ "_" ++ field.1) field.2.required v)).map
        (·.within field.1)

/-- The problems of some fields are those of one after another. -/
theorem problems_takeFields (numbers : NumberKind) (model : String)
    (entries : List (Value × Value)) (fields : Entries String (Slot Node)) :
    (Node.takeFields numbers model entries fields).problems =
      fields.flatMap (fieldProblems numbers model entries) := by
  induction fields with
  | nil => rfl
  | cons field rest ih =>
      rcases field with ⟨name, required, n⟩
      rw [Node.takeFields, List.flatMap_cons, ← ih, fieldProblems]
      cases found : Value.lookup? entries name with
      | none => cases required <;> rfl
      | some v =>
          cases taken : n.take numbers (model ++ "_" ++ name) required v <;>
            simp [Taken.cons, taken]

theorem mem_fieldProblems_iff {numbers : NumberKind} {model name : String} {slot : Slot Node}
    {entries : List (Value × Value)} {p : DataProblem} :
    p ∈ fieldProblems numbers model entries (name, slot) ↔
      Value.lookup? entries name = none ∧ slot.required = true ∧ p = ⟨[name], .missing⟩ ∨
        ∃ v, Value.lookup? entries name = some v ∧
          ∃ q ∈ refusals (slot.content.take numbers (model ++ "_" ++ name) slot.required v),
            q.within name = p := by
  rw [fieldProblems]
  cases found : Value.lookup? entries name with
  | none => cases slot.required <;> simp
  | some v => simp

/-- Where the problems of the values of fields are known, the problems of the fields
are their violations. -/
theorem mem_problems_iff_of_misfit {numbers : NumberKind} {model : String}
    {fields : Entries String (Slot Node)} {entries : List (Value × Value)}
    (values : ∀ name slot, (name, slot) ∈ fields → ∀ v, Value.lookup? entries name = some v →
      ∀ path fault,
        ⟨path, fault⟩ ∈
            refusals (slot.content.take numbers (model ++ "_" ++ name) slot.required v) ↔
          Misfit numbers (model ++ "_" ++ name) slot v path fault)
    (path : List String) (fault : DataFault) :
    ⟨path, fault⟩ ∈ (Node.takeFields numbers model entries fields).problems ↔
      Violation numbers model fields entries path fault := by
  rw [problems_takeFields, List.mem_flatMap, violation_iff]
  constructor
  · rintro ⟨⟨name, slot⟩, declared, found⟩
    refine ⟨name, slot, declared, ?_⟩
    rcases mem_fieldProblems_iff.mp found with
      ⟨absent, required, equal⟩ | ⟨v, present, q, refused, equal⟩
    · cases equal
      exact Or.inl ⟨absent, required, rfl, rfl⟩
    · cases equal
      exact Or.inr ⟨v, q.path, present, rfl, (values name slot declared v present _ _).mp refused⟩
  · rintro ⟨name, slot, declared, cause⟩
    refine ⟨(name, slot), declared, mem_fieldProblems_iff.mpr ?_⟩
    rcases cause with ⟨absent, required, rfl, rfl⟩ | ⟨v, rest, present, rfl, misfit⟩
    · exact Or.inl ⟨absent, required, rfl⟩
    · exact Or.inr ⟨v, present, ⟨rest, fault⟩,
        (values name slot declared v present _ _).mpr misfit, rfl⟩

/-- The problems for which a value is refused say what is wrong with it. -/
theorem mem_refusals_take_iff (numbers : NumberKind) (n : Node) (model : String) (required : Bool)
    {v : Value} (keyed : v.TextKeyed) (path : List String) (fault : DataFault) :
    ⟨path, fault⟩ ∈ refusals (n.take numbers model required v) ↔
      Misfit numbers model ⟨required, n⟩ v path fault := by
  -- A model passes its value on to its properties, of which the hypothesis speaks; every
  -- other field decides about the value alone.
  induction n generalizing model required v path fault with
  | mk facets properties ih =>
      by_cases isModel : (Node.mk facets properties).IsModel
      · rw [Misfit, refuses_iff_of_isModel _ isModel, Node.take_of_isModel isModel]
        cases v with
        | dict entries =>
            have fields := mem_problems_iff_of_misfit
              (fun name slot declared v present =>
                ih name slot declared (model ++ "_" ++ name) slot.required (keyed.found present))
              path fault
            simp [isModel, Node.properties, fields]
        | _ => simp
      · obtain ⟨fault?, refused, faults⟩ :=
          refusals_take_of_not_isModel numbers model ⟨required, .mk facets properties⟩ keyed isModel
        simp only [refused, Misfit, isModel, ← faults]
        cases fault? <;> simp [eq_comm]

/-- The problems of fields are their violations. -/
theorem mem_problems_takeFields_iff (numbers : NumberKind) (model : String)
    {entries : List (Value × Value)} (keyed : (Value.dict entries).TextKeyed)
    (fields : Entries String (Slot Node)) (path : List String) (fault : DataFault) :
    ⟨path, fault⟩ ∈ (Node.takeFields numbers model entries fields).problems ↔
      Violation numbers model fields entries path fault :=
  mem_problems_iff_of_misfit
    (fun _ slot _ _ present path fault =>
      mem_refusals_take_iff numbers slot.content _ _ (keyed.found present) path fault)
    path fault

end ApiContract
