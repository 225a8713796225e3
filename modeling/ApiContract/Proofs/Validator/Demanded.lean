import ApiContract.Proofs.Document.Required
import ApiContract.Proofs.Validator.Report

/-!
# Names that are demanded

A validator reports a field as missing at the end of a chain of names exactly if
the property is required and the dictionary to which the names lead has nothing
under its name.  The schema in the description of the same node lists the same
name as required, so documents and validators demand the same names.
-/

namespace ApiContract

open ErrorTree

variable {numbers : NumberKind} {model : String} {entries inner : List (Value × Value)}

/-! ### Faults of a missing field -/

/-- Only a missing field has the message of one. -/
theorem DataFault.message_eq_iff {fault : DataFault} :
    fault.message = "Field required" ↔ fault = .missing := by
  constructor
  · intro same
    cases fault with
    | missing => rfl
    | notRecord model =>
        -- The name of the model is free, but the messages differ in their first letter.
        have first : ("Input should be a valid dictionary or instance of " ++ model).toList.head? =
            "Field required".toList.head? := congrArg (fun text : String => text.toList.head?) same
        rw [String.toList_append, List.head?_append] at first
        simp at first
    | _ => exact absurd same (by decide)
  · rintro rfl
    rfl

namespace Value

theorem toInteger_ne_missing (v : Value) : v.toInteger ≠ .error .missing := by
  fun_cases toInteger v with
  | case3 x =>
      cases x.toWhole with
      | ok n => simp [Except.mapError]
      | error fault => cases fault <;> simp [Except.mapError, wholeFault]
  | _ => simp

theorem toDouble_ne_missing (v : Value) : v.toDouble ≠ .error .missing := by
  fun_cases toDouble v <;> simp

theorem toBoolean_ne_missing (v : Value) : v.toBoolean ≠ .error .missing := by
  fun_cases toBoolean v <;> simp

theorem toText_ne_missing (v : Value) : v.toText ≠ .error .missing := by
  fun_cases toText v <;> simp

end Value

/-- No value is refused as missing by its coercion. -/
theorem ScalarKind.coerce_ne_missing (kind : ScalarKind) (v : Value) :
    kind.coerce numbers v ≠ .error .missing := by
  cases kind with
  | number => cases numbers <;> simp [coerce, v.toInteger_ne_missing, v.toDouble_ne_missing]
  | boolean => simp [coerce, v.toBoolean_ne_missing]
  | text => exact v.toText_ne_missing

/-- No problem of fields is one of the dictionary as a whole. -/
theorem path_ne_nil_of_mem_problems {fields : Entries String (Slot Node)} {p : DataProblem}
    (listed : p ∈ (Node.takeFields numbers model entries fields).problems) : p.path ≠ [] := by
  rw [problems_takeFields] at listed
  obtain ⟨field, -, member⟩ := List.mem_flatMap.mp listed
  obtain ⟨rest, path⟩ := path_of_mem_fieldProblems member
  simp [path]

/-- A value that is given is not refused as missing. -/
theorem missing_not_mem_refusals (n : Node) (required : Bool) (v : Value) :
    ⟨[], .missing⟩ ∉ refusals (n.take numbers model required v) := by
  intro listed
  rcases n.shape_cases with isModel | takes | takes | shape | shape
  · rw [Node.take_of_isModel isModel] at listed
    cases v with
    | dict entries =>
        rw [refusals_toExcept] at listed
        exact path_ne_nil_of_mem_problems listed rfl
    | _ => simp at listed
  · rw [Node.take_of_takesList takes, Value.toList] at listed
    split at listed <;> simp at listed
  · rw [Node.take_of_takesDictionary takes] at listed
    cases v with
    | dict entries =>
        rw [Value.toDictionary] at listed
        split at listed
        · simp at listed
        · obtain ⟨entry, -, problem⟩ := List.mem_filterMap.mp listed
          rw [Value.keyProblem?] at problem
          split at problem <;> simp at problem
    | _ => simp [Value.toDictionary] at listed
  · simp [Node.take_of_union shape] at listed
  · rw [Node.take_of_scalar shape, ScalarKind.take] at listed
    split at listed
    · simp at listed
    · split at listed
      · simp at listed
      · rename_i fault coerced
        obtain rfl : DataFault.missing = fault := by simpa using listed
        exact ScalarKind.coerce_ne_missing _ v coerced

/-! ### Problems along a chain of names -/

/-- A problem seen from one step further out is a problem behind this step. -/
theorem mem_within_iff {problems : List DataProblem} {step : String} {path : List String}
    {fault : DataFault} :
    ⟨step :: path, fault⟩ ∈ problems.map (·.within step) ↔ ⟨path, fault⟩ ∈ problems := by
  rw [List.mem_map]
  constructor
  · rintro ⟨p, listed, same⟩
    cases same
    exact listed
  · intro listed
    exact ⟨_, listed, rfl⟩

/-- Where names are distinct, a problem behind the name of a field is one of this field. -/
theorem mem_problems_cons_iff {fields : Entries String (Slot Node)} (names : fields.keys.Nodup)
    {name : String} {slot : Slot Node} (declared : (name, slot) ∈ fields) {path : List String}
    {fault : DataFault} :
    ⟨name :: path, fault⟩ ∈ (Node.takeFields numbers model entries fields).problems ↔
      ⟨name :: path, fault⟩ ∈ fieldProblems numbers model entries (name, slot) := by
  rw [problems_takeFields, List.mem_flatMap]
  constructor
  · rintro ⟨⟨other, slot'⟩, declared', member⟩
    obtain ⟨rest, same⟩ := path_of_mem_fieldProblems member
    cases same
    obtain rfl := Entries.eq_of_mem names declared' declared
    exact member
  · intro member
    exact ⟨(name, slot), declared, member⟩

/-- The problems at the end of a chain of names are those of the dictionary that stands there, which
is checked under the name of another model. -/
theorem Node.Leads.mem_problems_iff {n m : Node} {chain : List String} (leads : n.Leads chain m)
    (distinct : n.Distinct) (numbers : NumberKind) (model : String)
    (held : (Value.dict entries).descend? chain = some (.dict inner)) :
    ∃ target, ∀ path fault,
      ⟨chain ++ path, fault⟩ ∈ (Node.takeFields numbers model entries n.properties).problems ↔
        ⟨path, fault⟩ ∈ (Node.takeFields numbers target inner m.properties).problems := by
  induction leads generalizing model entries with
  | here =>
      obtain rfl : entries = inner := by simpa using held
      exact ⟨model, fun _ _ => Iff.rfl⟩
  | @step n m name slot chain declared isModel _ ih =>
      obtain ⟨v, present, further⟩ := Option.bind_eq_some_iff.mp held
      obtain ⟨between, rfl⟩ := Value.exists_of_descend?_eq_dict further
      obtain ⟨target, same⟩ := ih (distinct.property declared) (model ++ "_" ++ name) further
      refine ⟨target, fun path fault => ?_⟩
      rw [List.cons_append, mem_problems_cons_iff distinct.names declared, fieldProblems]
      simp only [present, Node.take_of_isModel isModel, refusals_toExcept, mem_within_iff, same]

/-- Of a field that is missing nothing else can be wrong, and nothing behind it. -/
theorem mem_fieldProblems_iff_of_absent {name : String} {slot : Slot Node} {path : List String}
    {fault : DataFault} (absent : Value.lookup? entries name = none) :
    ⟨name :: path, fault⟩ ∈ fieldProblems numbers model entries (name, slot) ↔
      slot.required = true ∧ path = [] ∧ fault = .missing := by
  simp [mem_fieldProblems_iff, absent]

/-- A field is missing if it has to be given and nothing is held under its name. -/
theorem missing_mem_fieldProblems_iff {name : String} {slot : Slot Node} :
    ⟨[name], .missing⟩ ∈ fieldProblems numbers model entries (name, slot) ↔
      slot.required = true ∧ Value.lookup? entries name = none := by
  cases held : Value.lookup? entries name with
  | none => simp [mem_fieldProblems_iff_of_absent held]
  | some v =>
      rw [fieldProblems]
      simp only [held, mem_within_iff, missing_not_mem_refusals, reduceCtorEq, and_false]

/-! ### Reports of a missing field -/

namespace Validator

/-- A validator reports a field as missing at the end of a chain of names exactly if it has to be
given and nothing is held under its name. -/
theorem reports_missing_iff {v : Validator} {n m : Node} (fields : v.fields = n.properties)
    (distinct : n.Distinct) {chain : List String} (leads : n.Leads chain m) {name : String}
    {slot : Slot Node} (declared : (name, slot) ∈ m.properties)
    (held : (Value.dict entries).descend? chain = some (.dict inner)) :
    (∃ texts, messagesAt (v.run entries).errors (chain ++ [name]) = some texts ∧
        "Field required" ∈ texts) ↔
      slot.required = true ∧ Value.lookup? inner name = none := by
  obtain ⟨target, problems⟩ := leads.mem_problems_iff distinct v.numbers v.model held
  have field : ∀ path fault,
      ⟨chain ++ [name] ++ path, fault⟩ ∈
          (Node.takeFields v.numbers v.model entries v.fields).problems ↔
        ⟨name :: path, fault⟩ ∈ fieldProblems v.numbers target inner (name, slot) := by
    intro path fault
    rw [fields, List.append_assoc, List.singleton_append, problems,
      mem_problems_cons_iff (leads.distinct distinct).names declared]
  have rooted : ∀ e ∈ (Node.takeFields v.numbers v.model entries v.fields).problems.map
      (fun p => (p.path, p.fault.message)), e.1 ≠ [] := by
    intro e listed
    obtain ⟨p, member, rfl⟩ := List.mem_map.mp listed
    exact path_ne_nil_of_mem_problems member
  rw [errors_run, exists_messagesAt_collect_iff rooted (by simp)]
  constructor
  · rintro ⟨listed, -⟩
    obtain ⟨⟨path, fault⟩, member, same⟩ := List.mem_map.mp listed
    obtain ⟨rfl, message⟩ := Prod.mk.inj same
    obtain rfl := DataFault.message_eq_iff.mp message
    exact missing_mem_fieldProblems_iff.mp ((field [] .missing).mp (by simpa using member))
  · rintro ⟨required, absent⟩
    have missing := (field [] .missing).mpr (missing_mem_fieldProblems_iff.mpr ⟨required, absent⟩)
    rw [List.append_nil] at missing
    refine ⟨List.mem_map.mpr ⟨_, missing, rfl⟩, ?_⟩
    intro e listed further
    obtain ⟨⟨_, fault⟩, member, rfl⟩ := List.mem_map.mp listed
    obtain ⟨path, rfl⟩ := further
    obtain ⟨-, rfl, -⟩ := (mem_fieldProblems_iff_of_absent absent).mp ((field path fault).mp member)
    simp

/-- A schema and a validator demand the same names of a node: behind every chain of names that leads
from it through objects with properties, in every input that holds dictionaries along the chain, a
name is reported as missing exactly if the schema requires it and the dictionary lacks it. -/
def SameDemands (n : Node) (schema : Value) (v : Validator) : Prop :=
  ∀ chain m, n.Leads chain m → ∀ name slot, (name, slot) ∈ m.properties →
    ∀ input entries inner, input.toEntries = .ok entries →
      (Value.dict entries).descend? chain = some (.dict inner) →
        ∃ report, v.validate input = .ok report ∧
          ((∃ texts, messagesAt report.errors (chain ++ [name]) = some texts ∧
              "Field required" ∈ texts) ↔
            schema.Requires chain name ∧ Value.lookup? inner name = none)

/-- A description of a node requires in its content what a validator demands.  There is one if all
that the schema of the node shows can be displayed. -/
structure Describes (description : Except Failure Mapping) (n : Node) (v : Validator) : Prop where
  exists_iff : (∃ described, description = .ok described) ↔ n.compilable = true
  demands : ∀ described, description = .ok described →
    ∃ schema, (Value.record described).descend? ["content", contentType, "schema"] = some schema ∧
      SameDemands n schema v

/-- A validator of the properties of a node demands what the content of the node requires. -/
theorem sameDemands_content {registered : String → Bool} {n : Node} (distinct : n.Distinct)
    (shape : n.shape = .object ∨ n.shape = .scalar) {v : Validator}
    (fields : v.fields = n.properties) {content : Mapping}
    (compiled : n.contentSchema? registered = .ok content) :
    SameDemands n (Value.record content) v := by
  intro chain m leads name slot declared input entries inner given held
  refine ⟨v.run entries, by rw [validate, given, Except.map], ?_⟩
  rw [reports_missing_iff fields distinct leads declared held,
    Node.requires_contentSchema_iff compiled, leads.requires_iff distinct shape declared]

/-- A description that is made around the content of a node requires what a validator of its
properties demands. -/
theorem describes_of_content {registered : String → Bool} {n : Node} (distinct : n.Distinct)
    (shape : n.shape = .object ∨ n.shape = .scalar) {v : Validator}
    (fields : v.fields = n.properties) {around : Mapping → Mapping}
    (content : ∀ schema, (Value.record (around schema)).descend?
      ["content", contentType, "schema"] = some (Value.record schema)) :
    Describes ((n.contentSchema? registered).map around) n v where
  exists_iff := by
    simp only [Attempt.map_eq_ok_iff, Node.contentSchema?, Node.schema?_eq_ok_iff]
    constructor
    · rintro ⟨_, _, ⟨_, ⟨compilable, -⟩, -⟩, -⟩
      exact compilable
    · intro compilable
      exact ⟨_, _, ⟨_, ⟨compilable, rfl⟩, rfl⟩, rfl⟩
  demands described isDescribed := by
    obtain ⟨schema, compiled, rfl⟩ := Attempt.map_eq_ok_iff.mp isDescribed
    exact ⟨_, content schema, sameDemands_content distinct shape fields compiled⟩

end Validator

/-- Where an endpoint takes a body with properties and no parameters, its validator checks the
properties of the body. -/
theorem Endpoint.exists_requestValidator {e : Endpoint} {body : RequestBody}
    (parameters : e.standingParameters = .ok []) (isBody : e.body = some (.declared body))
    (names : body.content.properties.keys.Nodup) (properties : body.content.properties ≠ []) :
    ∃ v, e.requestValidator? = .ok (some v) ∧ v.fields = body.content.properties := by
  have table : Validator.table [] (some body.content) = body.content.properties := by
    simpa [Validator.table_eq_ofList] using Entries.ofList_eq_self names
  refine ⟨⟨"RequestParams", .integer, body.content.properties⟩, ?_, rfl⟩
  simp only [requestValidator?, parameters, isBody, Attempt.do_eq_ok_iff, Attempt.pure_eq_ok_iff]
  refine ⟨[], rfl, some body.content, rfl, ?_⟩
  rw [Validator.request?_eq_some_iff, table]
  exact ⟨properties, rfl⟩

/-- The validator of the requests to an endpoint without parameters demands the names that the
description of its body requires, and the validator of a response demands those that the description
of the response requires. -/
theorem Validator.demands_described {n : Node} (distinct : n.Distinct)
    (shape : n.shape = .object ∨ n.shape = .scalar) (properties : n.properties ≠ [])
    (registered : String → Bool) :
    (∀ (e : Endpoint) (required : Bool), e.standingParameters = .ok [] →
      e.body = some (.declared ⟨required, n⟩) →
        ∃ v, e.requestValidator? = .ok (some v) ∧
          Describes (RequestBody.describe registered ⟨required, n⟩) n v) ∧
      ∃ v, response? n = some v ∧ Describes (Response.describe registered n) n v := by
  constructor
  · intro e required parameters isBody
    obtain ⟨v, compiled, fields⟩ :=
      Endpoint.exists_requestValidator parameters isBody distinct.names properties
    exact ⟨v, compiled, describes_of_content distinct shape fields fun _ => rfl⟩
  · refine ⟨_, response?_eq_some_iff.mpr ⟨properties, rfl⟩, ?_⟩
    exact describes_of_content distinct shape rfl fun _ => rfl

namespace Validator

/-- An endpoint that takes orders, and no parameters. -/
def ordering : Endpoint :=
  { Endpoint.empty with body := some (.declared ⟨true, orderBody⟩) }

/-- An order in which there are only tags. -/
def taggedOrder : List (Value × Value) :=
  [(.str "order", .dict [(.str "tags", .list [])])]

/-- The amount of an order is demanded and the tags are not, of requests and of responses. -/
theorem demands_described_order :
    (∃ v, ordering.requestValidator? = .ok (some v) ∧
      ∃ report, v.validate (.dict taggedOrder) = .ok report ∧
        ∃ texts, messagesAt report.errors ["order", "amount"] = some texts ∧
          "Field required" ∈ texts) ∧
      ∃ v, response? orderBody = some v ∧
        ∃ report, v.validate (.dict [(.str "order", .dict [])]) = .ok report ∧
          ¬∃ texts, messagesAt report.errors ["order", "tags"] = some texts ∧
            "Field required" ∈ texts := by
  have distinct : orderBody.Distinct := by simp [orderBody, orderFields, typed]
  have toOrder : orderBody.Leads ["order"] (typed "object" orderFields) :=
    .step List.mem_cons_self ⟨rfl, List.cons_ne_nil _ _⟩ (.here _)
  obtain ⟨request, v, compiled, shown⟩ :=
    demands_described distinct (.inl rfl) (List.cons_ne_nil _ _) fun _ => false
  constructor
  · obtain ⟨v, compiled, shown⟩ := request ordering true rfl rfl
    obtain ⟨schema, content, same⟩ := shown.demands _ rfl
    cases content
    obtain ⟨report, validated, missing⟩ := same _ _ toOrder "amount" _ List.mem_cons_self
      (.dict taggedOrder) _ _ rfl rfl
    exact ⟨v, compiled, report, validated,
      missing.mpr ⟨⟨_, rfl, List.mem_cons_self⟩, rfl⟩⟩
  · obtain ⟨schema, content, same⟩ := shown.demands _ rfl
    cases content
    obtain ⟨report, validated, missing⟩ := same _ _ toOrder "tags" _
      (List.mem_cons_of_mem _ List.mem_cons_self) (.dict [(.str "order", .dict [])]) _ _ rfl rfl
    refine ⟨v, compiled, report, validated, ?_⟩
    intro reported
    obtain ⟨⟨names, found, listed⟩, -⟩ := missing.mp reported
    cases found
    simp [requiredNames, orderFields] at listed

end Validator

end ApiContract
