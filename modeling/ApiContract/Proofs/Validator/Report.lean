import ApiContract.Proofs.Schema.Tree
import ApiContract.Proofs.Validator.ErrorTree
import ApiContract.Proofs.Validator.Violation
import ApiContract.Validator.Basic

/-!
# The report of a validator

The fields of a compiled validator are those that are declared, each name at its
first place with its last slot.  Where no name stands for two properties of a node,
the paths of problems are apart, so nesting them loses no message, and a report is
exactly the violations.
-/

namespace ApiContract

open ErrorTree

/-! ### Paths to problems -/

theorem ErrorTree.Apart.cons {p q : List String} (apart : Apart p q) (step : String) :
    Apart (step :: p) (step :: q) :=
  ⟨fun leads => apart.1 (List.cons_prefix_cons.mp leads).2,
    fun leads => apart.2 (List.cons_prefix_cons.mp leads).2⟩

theorem ErrorTree.apart_cons_of_ne {s t : String} (different : s ≠ t) (p q : List String) :
    Apart (s :: p) (t :: q) :=
  ⟨fun leads => different (List.cons_prefix_cons.mp leads).1,
    fun leads => different (List.cons_prefix_cons.mp leads).1.symm⟩

/-- The paths of some problems are apart from each other. -/
def PathsApart (problems : List DataProblem) : Prop :=
  problems.Pairwise fun p q => Apart p.path q.path

/-- The problems of a field stand at or behind its name. -/
theorem path_of_mem_fieldProblems {numbers : NumberKind} {model : String}
    {entries : List (Value × Value)} {field : String × Slot Node} {p : DataProblem}
    (member : p ∈ fieldProblems numbers model entries field) :
    ∃ rest, p.path = field.1 :: rest := by
  rcases mem_fieldProblems_iff.mp member with ⟨-, -, rfl⟩ | ⟨v, -, q, -, rfl⟩
  · exact ⟨[], rfl⟩
  · exact ⟨q.path, rfl⟩

/-- The problems of a field are apart if those of its value are. -/
theorem pathsApart_fieldProblems {numbers : NumberKind} {model : String}
    {entries : List (Value × Value)} {field : String × Slot Node}
    (values : ∀ v, Value.lookup? entries field.1 = some v →
      PathsApart (refusals (field.2.content.take numbers (model ++ "_" ++ field.1)
        field.2.required v))) :
    PathsApart (fieldProblems numbers model entries field) := by
  rw [PathsApart, fieldProblems]
  cases found : Value.lookup? entries field.1 with
  | none => cases field.2.required <;> simp
  | some v =>
      rw [List.pairwise_map]
      exact (values v found).imp fun apart => apart.cons field.1

/-- The problems of fields with different names are apart if those of their values
are. -/
theorem pathsApart_of_values {numbers : NumberKind} {model : String}
    {entries : List (Value × Value)} {fields : Entries String (Slot Node)}
    (names : fields.keys.Nodup)
    (values : ∀ name slot, (name, slot) ∈ fields → ∀ v, Value.lookup? entries name = some v →
      PathsApart (refusals (slot.content.take numbers (model ++ "_" ++ name) slot.required v))) :
    PathsApart (Node.takeFields numbers model entries fields).problems := by
  rw [PathsApart, problems_takeFields, List.pairwise_flatMap]
  constructor
  · rintro ⟨name, slot⟩ declared
    exact pathsApart_fieldProblems (values name slot declared)
  · apply (List.pairwise_map.mp names).imp
    intro first second different p pMember q qMember
    obtain ⟨pRest, pPath⟩ := path_of_mem_fieldProblems pMember
    obtain ⟨qRest, qPath⟩ := path_of_mem_fieldProblems qMember
    rw [pPath, qPath]
    exact apart_cons_of_ne different pRest qRest

/-- The problems of a value are apart. -/
theorem pathsApart_refusals_take (numbers : NumberKind) {n : Node} (distinct : n.Distinct)
    (model : String) (required : Bool) {v : Value} (keyed : v.TextKeyed) :
    PathsApart (refusals (n.take numbers model required v)) := by
  induction n generalizing model required v with
  | mk facets properties ih =>
      by_cases isModel : (Node.mk facets properties).IsModel
      · rw [Node.take_of_isModel isModel]
        cases v with
        | dict entries =>
            rw [refusals_toExcept]
            exact pathsApart_of_values distinct.names fun name slot declared v present =>
              ih name slot declared (distinct.property declared) _ _ (keyed.found present)
        | _ => simp [PathsApart]
      · obtain ⟨fault?, refused, -⟩ :=
          refusals_take_of_not_isModel numbers model ⟨required, .mk facets properties⟩ keyed isModel
        rw [refused]
        cases fault? <;> simp [PathsApart]

/-- The problems of fields with different names are apart. -/
theorem pathsApart_problems (numbers : NumberKind) (model : String)
    {fields : Entries String (Slot Node)} (names : fields.keys.Nodup)
    (distinct : ∀ name slot, (name, slot) ∈ fields → slot.content.Distinct)
    {entries : List (Value × Value)} (keyed : (Value.dict entries).TextKeyed) :
    PathsApart (Node.takeFields numbers model entries fields).problems :=
  pathsApart_of_values names fun name slot declared _ present =>
    pathsApart_refusals_take numbers (distinct name slot declared) _ _ (keyed.found present)

/-! ### Compiled validators -/

namespace Validator

/-- A validator that is compiled from declared fields, which are given in order and with
repetitions.  No name stands for two properties of one node, as is so in every registry
that is built by declaring. -/
inductive CompiledFrom : Entries String (Slot Node) → NumberKind → Validator → Prop
  | request {parameters : List Parameter} {body : Option Node} {v : Validator}
      (parametersDistinct : ∀ p ∈ parameters, p.node.Distinct)
      (bodyDistinct : ∀ n, body = some n → n.Distinct)
      (compiled : request? parameters body = some v) :
      CompiledFrom (parameters.map (fun p => (p.name, p.slot)) ++
        (body.map Node.properties).getD []) .integer v
  | response {n : Response} {v : Validator} (distinct : n.Distinct)
      (compiled : response? n = some v) : CompiledFrom n.properties .double v

variable {declared : Entries String (Slot Node)} {numbers : NumberKind} {v : Validator}

/-- The fields of a request are the parameters with the properties of the body stored
after them. -/
theorem table_eq_ofList (parameters : List Parameter) (body : Option Node) :
    table parameters body =
      Entries.ofList (parameters.map (fun p => (p.name, p.slot)) ++
        (body.map Node.properties).getD []) := by
  rw [table, Entries.ofList, Entries.ofList, Entries.putAll_append]

/-- There is a request validator exactly if there is a field. -/
theorem request?_eq_some_iff {parameters : List Parameter} {body : Option Node} :
    request? parameters body = some v ↔
      table parameters body ≠ [] ∧ ⟨"RequestParams", .integer, table parameters body⟩ = v := by
  by_cases none : table parameters body = [] <;> simp [request?, none]

/-- There is a response validator exactly if there is a property. -/
theorem response?_eq_some_iff {n : Response} :
    response? n = some v ↔
      n.properties ≠ [] ∧ ⟨"ResponseBody", .double, n.properties⟩ = v := by
  by_cases none : n.properties = [] <;> simp [response?, none]

/-- The fields of a validator are those declared, stored first to last. -/
theorem CompiledFrom.fields_eq (compiled : CompiledFrom declared numbers v) :
    v.fields = Entries.ofList declared := by
  cases compiled with
  | request _ _ compiled =>
      obtain ⟨-, rfl⟩ := request?_eq_some_iff.mp compiled
      exact table_eq_ofList _ _
  | response distinct compiled =>
      obtain ⟨-, rfl⟩ := response?_eq_some_iff.mp compiled
      exact (Entries.ofList_eq_self distinct.names).symm

theorem CompiledFrom.numbers_eq (compiled : CompiledFrom declared numbers v) :
    v.numbers = numbers := by
  cases compiled with
  | request _ _ compiled =>
      obtain ⟨-, rfl⟩ := request?_eq_some_iff.mp compiled
      rfl
  | response _ compiled =>
      obtain ⟨-, rfl⟩ := response?_eq_some_iff.mp compiled
      rfl

/-- In no field of a validator a name stands for two properties of one node. -/
theorem CompiledFrom.distinct (compiled : CompiledFrom declared numbers v) {name : String}
    {slot : Slot Node} (member : (name, slot) ∈ v.fields) : slot.content.Distinct := by
  rw [compiled.fields_eq] at member
  have listed := Entries.mem_ofList member
  cases compiled with
  | @request _ body _ parametersDistinct bodyDistinct _ =>
      rcases List.mem_append.mp listed with parameter | property
      · obtain ⟨p, pListed, equal⟩ := List.mem_map.mp parameter
        cases equal
        exact parametersDistinct p pListed
      · cases body with
        | none => simp at property
        | some n => exact (bodyDistinct n rfl).property property
  | response distinct _ => exact distinct.property listed

/-- No violation is one of the dictionary as a whole. -/
theorem path_ne_nil {model : String} {fields : Entries String (Slot Node)}
    {entries : List (Value × Value)} {path : List String} {fault : DataFault}
    (violation : Violation numbers model fields entries path fault) : path ≠ [] := by
  cases violation <;> simp

/-- Validating succeeds exactly if checking finds no problem. -/
theorem success_run_iff (v : Validator) (entries : List (Value × Value)) :
    (v.run entries).success = true ↔
      (Node.takeFields v.numbers v.model entries v.fields).problems = [] := by
  by_cases none : (Node.takeFields v.numbers v.model entries v.fields).problems = [] <;>
    simp [run, none]

/-- The error trees of a report are made of all problems that checking finds. -/
theorem errors_run (v : Validator) (entries : List (Value × Value)) :
    (v.run entries).errors =
      collect ((Node.takeFields v.numbers v.model entries v.fields).problems.map
        fun p => (p.path, p.fault.message)) := by
  by_cases none : (Node.takeFields v.numbers v.model entries v.fields).problems = [] <;>
    simp [run, none, collect]

/-- A validator reports success exactly if there is no violation, and the trees of its
report hold one message for every violation, at its path, and no other messages.  The
fields of the validator are those that are declared, each name at its first place with its
last slot. -/
theorem reports_violations (compiled : CompiledFrom declared numbers v)
    {entries : List (Value × Value)} (keyed : (Value.dict entries).TextKeyed) :
    v.fields.keys = (Entries.keys declared).eraseDups ∧
      (∀ name, v.fields.get? name = Entries.get? declared.reverse name) ∧
      ∃ report, v.validate (.dict entries) = .ok report ∧
        (report.success = true ↔
          ¬∃ path fault, Violation numbers v.model v.fields entries path fault) ∧
        ∀ path texts, messagesAt report.errors path = some texts ↔
          ∃ fault, Violation numbers v.model v.fields entries path fault ∧
            texts = [fault.message] := by
  obtain rfl := compiled.numbers_eq
  have keys : v.fields.keys = (Entries.keys declared).eraseDups := by
    rw [compiled.fields_eq, Entries.keys_ofList]
  have slots : ∀ name, v.fields.get? name = Entries.get? declared.reverse name := by
    intro name
    rw [compiled.fields_eq, Entries.get?_ofList]
  have violations := mem_problems_takeFields_iff v.numbers v.model keyed v.fields
  refine ⟨keys, slots, v.run entries, rfl, ?_, ?_⟩
  · rw [success_run_iff, List.eq_nil_iff_forall_not_mem]
    constructor
    · rintro none ⟨path, fault, violation⟩
      exact none _ ((violations path fault).mpr violation)
    · rintro free ⟨path, fault⟩ listed
      exact free ⟨path, fault, (violations path fault).mp listed⟩
  · intro path texts
    -- No message is dropped or overwritten: no path of a problem leads to another.
    have names : v.fields.keys.Nodup := by
      rw [compiled.fields_eq]
      exact Entries.nodup_keys_ofList declared
    have apart := pathsApart_problems v.numbers v.model names
      (fun _ _ member => compiled.distinct member) keyed
    rw [errors_run, messagesAt_collect_of_apart]
    · constructor
      · rintro ⟨message, listed, rfl⟩
        obtain ⟨⟨place, fault⟩, problem, equal⟩ := List.mem_map.mp listed
        cases equal
        exact ⟨fault, (violations place fault).mp problem, rfl⟩
      · rintro ⟨fault, violation, rfl⟩
        have problem := (violations path fault).mpr violation
        exact ⟨fault.message, List.mem_map.mpr ⟨_, problem, rfl⟩, rfl⟩
    · intro e listed
      obtain ⟨⟨place, fault⟩, problem, rfl⟩ := List.mem_map.mp listed
      exact path_ne_nil ((violations place fault).mp problem)
    · exact List.pairwise_map.mpr apart

/-- A node of a type of which nothing else is said. -/
def typed (type : String) (properties : Entries String (Slot Node)) : Node :=
  .mk { Facets.blank with type := .named type } properties

/-- The number of an order, taken from the path. -/
def orderNumber : Parameter :=
  ⟨"number", "path", true, typed "number" []⟩

/-- What is asked for in an order. -/
def orderFields : Entries String (Slot Node) :=
  [("amount", ⟨true, typed "number" []⟩), ("tags", ⟨false, typed "array" []⟩)]

/-- The body of a request, with an order in it. -/
def orderBody : Node :=
  typed "object" [("order", ⟨true, typed "object" orderFields⟩)]

/-- The validator of such requests. -/
def orderValidator : Validator :=
  ⟨"RequestParams", .integer,
    [("number", orderNumber.slot), ("order", ⟨true, typed "object" orderFields⟩)]⟩

theorem compiledFrom_orderValidator :
    CompiledFrom orderValidator.fields .integer orderValidator := by
  refine @CompiledFrom.request [orderNumber] (some orderBody) _ ?_ ?_ rfl
  · simp [orderNumber, typed]
  · simp [orderBody, orderFields, typed]

/-- A number that is none, and an order without amount and with no list of tags. -/
def orderData : List (Value × Value) :=
  [(.str "number", .str "first"), (.str "order", .dict [(.str "tags", .null)])]

/-- Three violations, two of them in an order, stand in one report. -/
theorem reports_violations_order :
    CompiledFrom orderValidator.fields .integer orderValidator ∧
      (Value.dict orderData).TextKeyed ∧
      ∃ report, orderValidator.validate (.dict orderData) = .ok report ∧
        report.success = false ∧
        messagesAt report.errors ["number"] =
          some ["Input should be a valid integer, unable to parse string as an integer"] ∧
        messagesAt report.errors ["order", "amount"] = some ["Field required"] ∧
        messagesAt report.errors ["order", "tags"] = some ["Input should be a valid list"] := by
  have keyed : (Value.dict orderData).TextKeyed := by
    simp [Value.TextKeyed, orderData, Value.contains_iff_of_leaf, Value.isText, -Prod.forall]
  obtain ⟨-, -, report, validated, success, messages⟩ :=
    reports_violations compiledFrom_orderValidator keyed
  have noNumber : Violation .integer "RequestParams" orderValidator.fields orderData ["number"]
      .unreadableInteger :=
    .refused (List.mem_cons_self : ("number", orderNumber.slot) ∈ _) rfl
      (.scalar rfl (by simp) rfl)
  have inOrder {path : List String} {fault : DataFault}
      (violation : Violation .integer "RequestParams_order" orderFields [(.str "tags", .null)] path
        fault) :
      Violation .integer "RequestParams" orderValidator.fields orderData ("order" :: path) fault :=
    .inside (List.mem_cons_of_mem _ List.mem_cons_self) ⟨rfl, List.cons_ne_nil _ _⟩ rfl violation
  have noAmount := inOrder (.missing List.mem_cons_self rfl rfl)
  have noTags := inOrder (.refused (List.mem_cons_of_mem _ List.mem_cons_self) rfl
    (.list (Or.inl rfl) rfl))
  refine ⟨compiledFrom_orderValidator, keyed, report, validated, ?_,
    (messages _ _).mpr ⟨_, noNumber, rfl⟩, (messages _ _).mpr ⟨_, noAmount, rfl⟩,
    (messages _ _).mpr ⟨_, noTags, rfl⟩⟩
  rw [Bool.eq_false_iff]
  intro successful
  exact success.mp successful ⟨_, _, noNumber⟩

end Validator

end ApiContract
