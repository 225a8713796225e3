import ApiContract.Proofs.Document.Assembly
import ApiContract.Proofs.Schema.Tree

/-!
# What documents are made of

A document is put together from texts, booleans and what is declared: allowed
values, members of unions and the descriptions of endpoints.  So whatever holds
of texts and booleans, goes from the items of lists and the entries of
dictionaries to the whole, and holds of what is declared, holds of the document.
-/

namespace ApiContract

open Value (record)

/-- Something holds of null, booleans and texts, of a list if it holds of its items, and of a
dictionary if it holds of what is held there under keys of some kind, texts among them. -/
structure Value.Composes (key holds : Value → Prop) : Prop where
  null : holds .null
  bool : ∀ b, holds (.bool b)
  str : ∀ s, holds (.str s)
  list : ∀ {items}, (∀ v ∈ items, holds v) → holds (.list items)
  dict : ∀ {entries : List (Value × Value)}, (∀ e ∈ entries, key e.1 ∧ holds e.2) →
    holds (.dict entries)
  text : ∀ s, key (.str s)

variable {key holds : Value → Prop} (composes : Value.Composes key holds)
  {registered : String → Bool}

include composes

/-- It holds of a record if it holds of what is held there. -/
theorem Value.Composes.record {m : Mapping} (all : ∀ e ∈ m, holds e.2) : holds (record m) :=
  composes.dict (List.forall_mem_map.mpr fun e member => ⟨composes.text e.1, all e member⟩)

/-- It holds of a record of records if it holds of all that is held in them. -/
theorem Value.Composes.records {schemas : Entries String Mapping}
    (all : ∀ e ∈ schemas, ∀ f ∈ e.2, holds f.2) :
    holds (Value.record (Entries.mapValues Value.record schemas)) := by
  refine composes.record ?_
  rw [Entries.mapValues, List.forall_mem_map]
  exact fun e member => composes.record (all e member)

/-- It holds of a member of a union in its one spelling. -/
theorem Value.Composes.normalized {m : Value} (member : holds m) : holds m.normalized := by
  rw [Value.normalized, normalized?.eq_def]
  split
  · exact composes.null
  · exact member
  · exact composes.str _
  · split
    · exact composes.str _
    · cases (Value.builtin _).display? with
      | none => exact composes.null
      | some text => exact composes.str text
  · cases m with
    | unpaired => exact member
    | _ =>
        rw [displayed?_of_ne (by simp)]
        cases Value.display? _ with
        | none => exact composes.null
        | some text => exact composes.str text

omit composes in
/-- Something holds of the union members and the allowed values of a node. -/
structure Facets.MadeOf (holds : Value → Prop) (f : Facets) : Prop where
  members : ∀ m ∈ f.members, holds m
  allowed : ∀ values, f.allowed = some values → ∀ v ∈ values, holds v

namespace Facets

variable {f : Facets}

theorem holds_nullableMark : ∀ e ∈ f.nullableMark, holds e.2 := by
  rw [nullableMark]
  split
  · simpa using composes.bool true
  · simp

theorem holds_valueMarks (made : f.MadeOf holds) : ∀ e ∈ f.valueMarks, holds e.2 := by
  rw [valueMarks, List.forall_mem_append]
  refine ⟨?_, holds_nullableMark composes⟩
  cases allowed : f.allowed with
  | none => simp
  | some values => simpa using composes.list (made.allowed values allowed)

theorem holds_type (made : f.MadeOf holds) : holds f.type.toValue := by
  have members := made.members
  cases type : f.type with
  | unset => exact composes.null
  | named tag => exact composes.str tag
  | union list =>
      rw [Facets.members, type] at members
      exact composes.list members

theorem holds_typeMark (made : f.MadeOf holds) : ∀ e ∈ f.typeMark, holds e.2 := by
  rw [typeMark]
  split
  · simp
  · simpa using holds_type composes made

theorem holds_refTo (name : String) : ∀ e ∈ refTo name, holds e.2 := by
  simpa [refTo] using composes.str _

theorem holds_items : ∀ e ∈ f.items registered, holds e.2 := by
  rw [items]
  split
  · simp
  · split
    · exact holds_refTo composes _
    · simpa using composes.str _

theorem holds_schema (made : f.MadeOf holds) {block : Mapping} (shown : ∀ e ∈ block, holds e.2) :
    ∀ e ∈ f.schema registered block, holds e.2 := by
  rw [schema]
  cases f.shape with
  | reference =>
      dsimp only
      split
      · simp only [List.forall_mem_cons]
        exact ⟨composes.str _, composes.record (holds_refTo composes _), by simp⟩
      · exact List.forall_mem_append.mpr ⟨holds_refTo composes _, holds_nullableMark composes⟩
  | array =>
      have items : ∀ e ∈ f.items registered ++ f.nullableMark ++ block, holds e.2 :=
        List.forall_mem_append.mpr ⟨List.forall_mem_append.mpr
          ⟨holds_items composes, holds_nullableMark composes⟩, shown⟩
      simp only [List.forall_mem_cons]
      exact ⟨holds_type composes made, composes.str _, composes.record items, by simp⟩
  | union =>
      have members : holds (.list (f.members.map fun m => record [("type", m.normalized)])) := by
        refine composes.list (List.forall_mem_map.mpr fun m member => composes.record ?_)
        simpa using composes.normalized (made.members m member)
      simp only [List.forall_mem_append, List.forall_mem_cons]
      exact ⟨⟨members, composes.str _, by simp⟩, holds_valueMarks composes made⟩
  | object | scalar =>
      have described : ∀ e ∈ [("description", Value.str f.description)], holds e.2 := by
        simpa using composes.str _
      exact List.forall_mem_append.mpr ⟨List.forall_mem_append.mpr ⟨List.forall_mem_append.mpr
        ⟨holds_typeMark composes made, described⟩, holds_valueMarks composes made⟩, shown⟩

end Facets

namespace Node

variable {n : Node}

omit composes in
/-- Something holds of all union members and allowed values in a tree of nodes. -/
def MadeOf (holds : Value → Prop) (n : Node) : Prop :=
  ∀ m, n.Contains m → m.facets.MadeOf holds

omit composes in
/-- A node without properties is made of what it holds itself. -/
theorem madeOf_leaf {f : Facets} (made : f.MadeOf holds) : (mk f []).MadeOf holds :=
  forall_contains_iff.mpr ⟨made, fun _ _ member => absurd member List.not_mem_nil⟩

theorem holds_propertiesBlock {required : List String} {schemas : Entries String Mapping}
    (shown : ∀ e ∈ schemas, ∀ f ∈ e.2, holds f.2) :
    ∀ e ∈ propertiesBlock required schemas, holds e.2 := by
  rw [propertiesBlock, List.forall_mem_append]
  constructor
  · split
    · simp
    · have names : holds (.list (required.map .str)) :=
        composes.list (List.forall_mem_map.mpr fun s _ => composes.str s)
      simpa using names
  · split
    · simp
    · have standing : ∀ e ∈ schemas.filter fun e => !e.2.isEmpty, ∀ f ∈ e.2, holds f.2 :=
        fun e member => shown e (List.mem_of_mem_filter member)
      simpa using composes.records standing

/-- What is declared in a tree of nodes is all that comes into its schema. -/
theorem holds_schema (made : n.MadeOf holds) : ∀ e ∈ n.schema registered, holds e.2 := by
  induction n with
  | mk f properties ih =>
      rw [schema]
      refine Facets.holds_schema composes (made _ (.here _)) ?_
      split
      · apply holds_propertiesBlock composes
        rintro ⟨name, m⟩ member
        obtain ⟨slot, listed, rfl⟩ := mem_schemas member
        exact ih name slot listed fun m inside => made m (.property listed inside)
      · simp

theorem holds_contentSchema? (made : n.MadeOf holds) {m : Mapping}
    (compiled : n.contentSchema? registered = .ok m) : ∀ e ∈ m, holds e.2 := by
  obtain ⟨whole, wholeEq, rfl⟩ := Attempt.map_eq_ok_iff.mp compiled
  obtain ⟨-, rfl⟩ := schema?_eq_ok_iff.mp wholeEq
  exact fun e member => holds_schema composes made e (List.mem_of_mem_filter member)

end Node

theorem Value.Composes.contentOf {m : Mapping} (all : ∀ e ∈ m, holds e.2) :
    holds (contentOf m) := by
  refine composes.record ?_
  rw [List.forall_mem_singleton]
  refine composes.record ?_
  rw [List.forall_mem_singleton]
  exact composes.record all

namespace Endpoint

variable {e : Endpoint}

omit composes in
/-- A node stands in an endpoint, as one of the parameters, as the request body, or where a response
is declared. -/
inductive Shows (e : Endpoint) : Node → Prop
  | parameter {parameters : List Parameter} {p : Parameter}
      (declared : e.parameters = .declared parameters) (listed : p ∈ parameters) : Shows e p.node
  | body {slot : RequestBody} (declared : e.body = some (.declared slot)) : Shows e slot.content
  | response {responses : List (Value × Standing Response)} {response : Value × Standing Response}
      {n : Response} (declared : e.responses = .declared responses) (listed : response ∈ responses)
      (standing : response.2.node id = .ok n) : Shows e n

theorem holds_describe_parameter {p : Parameter} (made : p.node.MadeOf holds) {m : Mapping}
    (described : p.describe registered = .ok m) : ∀ e ∈ m, holds e.2 := by
  obtain ⟨content, contentEq, rfl⟩ := Attempt.map_eq_ok_iff.mp described
  simp only [List.forall_mem_cons]
  exact ⟨composes.str _, composes.str _, composes.bool _, composes.str _,
    composes.record (Node.holds_contentSchema? composes made contentEq), by simp⟩

theorem holds_describe_response {n : Response} (made : Node.MadeOf holds n) {m : Mapping}
    (described : Response.describe registered n = .ok m) : ∀ e ∈ m, holds e.2 := by
  obtain ⟨content, contentEq, rfl⟩ := Attempt.map_eq_ok_iff.mp described
  simp only [List.forall_mem_cons]
  exact ⟨composes.str _, composes.record (by simp),
    composes.contentOf (Node.holds_contentSchema? composes made contentEq), by simp⟩

theorem holds_describe_body {body : RequestBody} (made : body.content.MadeOf holds) {m : Mapping}
    (described : RequestBody.describe registered body = .ok m) : ∀ e ∈ m, holds e.2 := by
  obtain ⟨content, contentEq, rfl⟩ := Attempt.map_eq_ok_iff.mp described
  simp only [List.forall_mem_cons]
  exact ⟨composes.str _, composes.bool _,
    composes.contentOf (Node.holds_contentSchema? composes made contentEq), by simp⟩

/-- What is declared in an endpoint is all that comes into its description, besides the codes of its
responses. -/
theorem holds_describe (nodes : ∀ n, e.Shows n → n.MadeOf holds) (description : holds e.description)
    (codes : ∀ responses, e.responses = .declared responses → ∀ response ∈ responses, ∀ code,
      Status.resolve response.1 = .ok code → key (.int code)) {operation : Mapping}
    (described : e.describe registered = .ok operation) : ∀ f ∈ operation, holds f.2 := by
  obtain ⟨parameters, list, responses, entries, body, parametersEq, listEq, responsesEq, entriesEq,
    bodyEq, rfl⟩ := describe_eq_ok described
  have parametersHold : holds (.list (list.map record)) := by
    refine composes.list (List.forall_mem_map.mpr fun m member => composes.record ?_)
    obtain ⟨p, listed, built⟩ :=
      Attempt.exists_of_mem_right (Attempt.mapM_eq_ok_iff.mp listEq) member
    exact holds_describe_parameter composes (nodes _ (.parameter parametersEq listed)) built
  have responsesHold :
      holds (.dict (entries.map fun r => (Value.int r.1, record r.2))) := by
    obtain ⟨built, pairs, rfl⟩ := describeAll_eq_ok_iff.mp entriesEq
    refine composes.dict (List.forall_mem_map.mpr fun entry member => ?_)
    obtain ⟨response, listed, resolved, n, standing, built⟩ :=
      Attempt.exists_of_mem_right pairs (Entries.mem_ofList member)
    exact ⟨codes _ responsesEq _ listed _ resolved, composes.record
      (holds_describe_response composes (nodes n (.response responsesEq listed standing)) built)⟩
  have bodyHolds : ∀ m, body = some m → holds (record m) := by
    rintro m rfl
    cases declared : e.body with
    | none => simp [declared] at bodyEq
    | some standing =>
        rw [declared] at bodyEq
        obtain ⟨described, describedEq, equal⟩ := Attempt.fmap_eq_ok_iff.mp bodyEq
        cases equal
        cases standing with
        | declared slot =>
            exact composes.record
              (holds_describe_body composes (nodes _ (.body declared)) describedEq)
        | component c => cases describedEq
        | value v => cases describedEq
  simp only [List.forall_mem_append, List.forall_mem_cons]
  refine ⟨⟨⟨parametersHold, responsesHold, by simp⟩, ?_⟩, ?_⟩
  · split
    · simpa using description
    · simp
  · cases body with
    | none => simp
    | some m => simpa using bodyHolds m rfl

end Endpoint

namespace Registry

variable {r : Registry}

omit composes in
/-- A node stands in a registry, as a component or in an endpoint. -/
inductive Shows (r : Registry) : Node → Prop
  | component {c : Component} (member : c ∈ r.components) : Shows r c.node
  | endpoint {e : Endpoint} {n : Node} (member : e ∈ r.endpoints) (inside : e.Shows n) : Shows r n

/-- What is declared in the components is all that comes into their schemas. -/
theorem holds_schemasValue (nodes : ∀ c ∈ r.components, c.node.MadeOf holds)
    {schemas : Entries String Mapping} (schemasEq : r.schemas = .ok schemas) :
    holds (schemasValue schemas) := by
  obtain ⟨built, pairs, rfl⟩ := enterComponents_eq_ok_iff.mp schemasEq
  refine composes.records fun entry member => ?_
  obtain ⟨c, listed, -, schemaEq⟩ := Attempt.exists_of_mem_right pairs (Entries.mem_ofList member)
  obtain ⟨-, equal⟩ := Node.schema?_eq_ok_iff.mp schemaEq
  rw [← equal]
  exact Node.holds_schema composes (nodes c listed)

/-- What the descriptions of the endpoints are made of is all that comes under the paths, besides
the paths and the verbs. -/
theorem holds_pathsValue
    (pathKeys : ∀ e ∈ r.endpoints, e.path.isGiven = true → key e.path)
    (verbKeys : ∀ e ∈ r.endpoints, ∀ verbs, e.operations.items? = some verbs →
      ∀ verb ∈ verbs, key verb)
    (described : ∀ e ∈ r.endpoints, ∀ operation, e.describe r.has = .ok operation →
      ∀ f ∈ operation, holds f.2)
    {paths : Entries Value (Entries Value Mapping)} (pathsEq : r.paths = .ok paths) :
    holds (pathsValue paths) := by
  refine composes.dict (List.forall_mem_map.mpr fun path member => ?_)
  obtain ⟨pathOrigin, verbOrigin⟩ := key_of_mem_enterEndpoints pathsEq member
  constructor
  · rcases pathOrigin with none | ⟨e, declared, given, same⟩
    · cases none
    · exact same ▸ pathKeys e declared given
  refine composes.dict (List.forall_mem_map.mpr fun entry listed => ⟨?_, composes.record ?_⟩)
  · rcases verbOrigin entry listed with ⟨before, none, -⟩ | ⟨e, declared, verbs, items, verb⟩
    · cases none
    · exact verbKeys e declared verbs items _ verb
  · rcases mem_enterEndpoints pathsEq member listed with
      ⟨before, none, -⟩ | ⟨e, declared, operation⟩
    · cases none
    · exact described e declared _ operation

/-- The sections of a document are made of those under the paths and of the schemas. -/
theorem holds_sections (info : DocumentInfo) {paths : Entries Value (Entries Value Mapping)}
    {schemas : Entries String Mapping} (pathsHold : holds (pathsValue paths))
    (schemasHold : holds (schemasValue schemas)) :
    holds (record (sections info paths schemas)) := by
  have infoHolds : holds (record info.toMapping) := by
    refine composes.record ?_
    simp [DocumentInfo.toMapping, composes.str]
  refine composes.record ?_
  simp only [sections, List.forall_mem_cons]
  exact ⟨composes.str _, infoHolds, pathsHold,
    composes.record (by simpa using schemasHold), by simp⟩

end Registry

end ApiContract
