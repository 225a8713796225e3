import ApiContract.Proofs.Document.Assembly
import ApiContract.Proofs.Document.Position
import ApiContract.Proofs.Lint.Findings

/-!
# References in documents

A schema refers to components in two ways: a node that is a reference refers to
its target, and an array refers to its element type if a component has that
name.  Where every node is well formed, both refer to a declared component only,
in whatever place of a document the schema stands.
-/

namespace ApiContract

namespace Value

/-- Every reference that stands in a value as a schema is to a component with a known
name. -/
def RefersTo (known : String → Prop) (v : Value) : Prop :=
  ∀ schema ref, Subschema v schema → schema.Holds (.str "$ref") ref →
    ∃ name, ref = .str (componentsPath ++ name) ∧ known name

/-- What an entry contributes to the references of the schema that it belongs to. -/
structure EntryRefersTo (known : String → Prop) (key : String) (v : Value) : Prop where
  own : key = "$ref" → ∃ name, v = .str (componentsPath ++ name) ∧ known name
  properties : key = "properties" → ∀ name child, v.Holds name child → child.RefersTo known
  items : key = "items" → v.RefersTo known
  members : key = "anyOf" → ∀ members, v = .list members →
    ∀ child ∈ members, child.RefersTo known

variable {known : String → Prop}

/-- The references in a record are those that its entries contribute. -/
theorem refersTo_record_iff {m : Mapping} :
    (record m).RefersTo known ↔ ∀ key v, (key, v) ∈ m → EntryRefersTo known key v := by
  constructor
  · intro refers key v member
    refine ⟨?_, ?_, ?_, ?_⟩
    · rintro rfl
      exact refers _ v (.here _) (holds_record_iff.mpr member)
    · rintro rfl name child named schema ref inside held
      exact refers schema ref (.property (holds_record_iff.mpr member) named inside) held
    · rintro rfl schema ref inside held
      exact refers schema ref (.items (holds_record_iff.mpr member) inside) held
    · rintro rfl members rfl child listed schema ref inside held
      exact refers schema ref (.member (holds_record_iff.mpr member) listed inside) held
  · intro entries schema ref stands held
    cases stands with
    | here => exact (entries _ _ (holds_record_iff.mp held)).own rfl
    | property propertiesHeld named inside =>
        exact (entries _ _ (holds_record_iff.mp propertiesHeld)).properties rfl _ _ named
          schema ref inside held
    | items itemsHeld inside =>
        exact (entries _ _ (holds_record_iff.mp itemsHeld)).items rfl schema ref inside held
    | member membersHeld listed inside =>
        exact (entries _ _ (holds_record_iff.mp membersHeld)).members rfl _ rfl _ listed
          schema ref inside held

/-- Most entries contribute nothing. -/
theorem EntryRefersTo.of_other {key : String} {v : Value}
    (other : key ∉ ["$ref", "properties", "items", "anyOf"]) : EntryRefersTo known key v := by
  simp only [List.mem_cons, not_or] at other
  exact ⟨fun h => absurd h other.1, fun h => absurd h other.2.1, fun h => absurd h other.2.2.1,
    fun h => absurd h other.2.2.2.1⟩

/-- The schema of items contributes its references. -/
theorem EntryRefersTo.of_items {v : Value} (refers : v.RefersTo known) :
    EntryRefersTo known "items" v :=
  ⟨fun h => absurd h (by decide), fun h => absurd h (by decide), fun _ => refers,
    fun h => absurd h (by decide)⟩

theorem EntryRefersTo.of_single {key name : String} {v w : Value}
    (member : (key, v) ∈ [(name, w)]) (other : name ∉ ["$ref", "properties", "items", "anyOf"]) :
    EntryRefersTo known key v := by
  obtain ⟨rfl, -⟩ := Prod.mk.inj (List.mem_singleton.mp member)
  exact .of_other other

end Value

open Value

/-! ### What the entries of a schema contribute -/

section Schema

variable {known : String → Bool} {f : Facets} {key : String} {v : Value}

/-- A reference to a known component contributes that reference. -/
theorem refTo_refersTo {name : String} (found : known name = true)
    (member : (key, v) ∈ refTo name) : EntryRefersTo (known · = true) key v := by
  obtain ⟨rfl, rfl⟩ := Prod.mk.inj (List.mem_singleton.mp member)
  exact ⟨fun _ => ⟨name, rfl, found⟩, fun h => absurd h (by decide), fun h => absurd h (by decide),
    fun h => absurd h (by decide)⟩

/-- What is shown of properties contributes the references of their schemas. -/
theorem propertiesBlock_refersTo {required : List String} {schemas : Entries String Mapping}
    (refers : ∀ name schema, (name, schema) ∈ schemas → (record schema).RefersTo (known · = true))
    (member : (key, v) ∈ propertiesBlock required schemas) :
    EntryRefersTo (known · = true) key v := by
  rw [propertiesBlock, List.mem_append] at member
  rcases member with required | properties
  · split at required
    · simp at required
    · exact .of_single required (by decide)
  · split at properties
    · simp at properties
    · obtain ⟨rfl, rfl⟩ := Prod.mk.inj (List.mem_singleton.mp properties)
      refine ⟨fun h => absurd h (by decide), fun _ name child named => ?_,
        fun h => absurd h (by decide), fun h => absurd h (by decide)⟩
      obtain ⟨name, rfl, listed⟩ := exists_of_holds_record named
      rw [Entries.mapValues, List.mem_map] at listed
      rcases listed with ⟨entry, shown, equal⟩
      cases equal
      exact refers _ _ (List.mem_of_mem_filter shown)

namespace Facets

theorem nullableMark_refersTo (member : (key, v) ∈ f.nullableMark) :
    EntryRefersTo (known · = true) key v := by
  rw [nullableMark] at member
  split at member
  · exact .of_single member (by decide)
  · simp at member

theorem valueMarks_refersTo (member : (key, v) ∈ f.valueMarks) :
    EntryRefersTo (known · = true) key v := by
  rw [valueMarks, List.mem_append] at member
  rcases member with enum | nullable
  · split at enum
    · exact .of_single enum (by decide)
    · simp at enum
  · exact nullableMark_refersTo nullable

theorem typeMark_refersTo (member : (key, v) ∈ f.typeMark) :
    EntryRefersTo (known · = true) key v := by
  rw [typeMark] at member
  split at member
  · simp at member
  · exact .of_single member (by decide)

/-- An element type is referred to only if it is the name of a component. -/
theorem items_refersTo (member : (key, v) ∈ f.items known) :
    EntryRefersTo (known · = true) key v := by
  rw [items] at member
  split at member
  · simp at member
  · split at member
    · rename_i found
      exact refTo_refersTo found member
    · exact .of_single member (by decide)

/-- The references in the schema of a well-formed node are to known components, if
those in what it shows of its properties are. -/
theorem schema_refersTo (formed : f.WellFormed (known · = true)) {block : Mapping}
    (blockRefers : ∀ key v, (key, v) ∈ block → EntryRefersTo (known · = true) key v) :
    (record (f.schema known block)).RefersTo (known · = true) := by
  rw [refersTo_record_iff]
  intro key v member
  rw [schema] at member
  cases shape : f.shape with
  | reference =>
      obtain ⟨target, targetEq, found⟩ := formed.reference shape
      have refers : ∀ key v, (key, v) ∈ refTo (f.target.getD "") →
          EntryRefersTo (known · = true) key v := by
        intro key v inRef
        rw [targetEq, Option.getD_some] at inRef
        exact refTo_refersTo found inRef
      rw [shape] at member
      dsimp only at member
      split at member
      · rcases List.mem_cons.mp member with type | items
        · exact .of_single (List.mem_singleton.mpr type) (by decide)
        · obtain ⟨rfl, rfl⟩ := Prod.mk.inj (List.mem_singleton.mp items)
          exact .of_items (refersTo_record_iff.mpr refers)
      · rcases List.mem_append.mp member with ref | mark
        · exact refers _ _ ref
        · exact nullableMark_refersTo mark
  | array =>
      simp only [shape, List.mem_cons, Prod.mk.injEq, List.not_mem_nil, or_false] at member
      rcases member with ⟨rfl, -⟩ | ⟨rfl, -⟩ | ⟨rfl, rfl⟩
      · exact .of_other (by decide)
      · exact .of_other (by decide)
      · apply EntryRefersTo.of_items
        rw [refersTo_record_iff]
        intro inner w inside
        simp only [List.mem_append] at inside
        rcases inside with (items | mark) | shown
        · exact items_refersTo items
        · exact nullableMark_refersTo mark
        · exact blockRefers _ _ shown
  | union =>
      simp only [shape, List.mem_append, List.mem_cons, Prod.mk.injEq, List.not_mem_nil,
        or_false] at member
      rcases member with (⟨rfl, rfl⟩ | ⟨rfl, -⟩) | marks
      · refine ⟨fun h => absurd h (by decide), fun h => absurd h (by decide),
          fun h => absurd h (by decide), fun _ members equal child listed => ?_⟩
        cases equal
        obtain ⟨m, -, rfl⟩ := List.mem_map.mp listed
        exact refersTo_record_iff.mpr fun _ _ type => .of_single type (by decide)
      · exact .of_other (by decide)
      · exact valueMarks_refersTo marks
  | object | scalar =>
      simp only [shape, List.mem_append] at member
      rcases member with ((type | description) | marks) | shown
      · exact typeMark_refersTo type
      · exact .of_single description (by decide)
      · exact valueMarks_refersTo marks
      · exact blockRefers _ _ shown

end Facets

end Schema

namespace Node

variable {known : String → Bool}

/-- The references in the schema of a well-formed tree are to known components. -/
theorem schema_refersTo {n : Node} (formed : n.WellFormed (known · = true)) :
    (record (n.schema known)).RefersTo (known · = true) := by
  induction n with
  | mk f properties ih =>
      rw [schema]
      apply Facets.schema_refersTo (formed _ (.here _))
      intro key v member
      split at member
      · apply propertiesBlock_refersTo _ member
        intro name m listed
        obtain ⟨slot, property, rfl⟩ := mem_schemas listed
        exact ih name slot property (formed.property property)
      · simp at member

theorem schema?_refersTo {n : Node} (formed : n.WellFormed (known · = true)) {m : Mapping}
    (shown : n.schema? known = .ok m) : (record m).RefersTo (known · = true) := by
  rw [schema?] at shown
  split at shown
  · cases shown
    exact schema_refersTo formed
  · cases shown

theorem contentSchema?_refersTo {n : Node} (formed : n.WellFormed (known · = true)) {m : Mapping}
    (shown : n.contentSchema? known = .ok m) : (record m).RefersTo (known · = true) := by
  rw [contentSchema?, Attempt.map_eq_ok_iff] at shown
  rcases shown with ⟨schema, schemaEq, rfl⟩
  have refers := refersTo_record_iff.mp (schema?_refersTo formed schemaEq)
  exact refersTo_record_iff.mpr fun key v member => refers key v (List.mem_of_mem_filter member)

end Node

/-! ### References in the description of an endpoint -/

section Description

variable {known : String → Bool} {n : Node} {m : Mapping} {v schema : Value}

/-- A description of content holds one schema. -/
theorem eq_of_holdsContent (rest : Mapping) (absent : ∀ w, ("content", w) ∉ rest)
    (held : HoldsContent (record (rest ++ [("content", contentOf m)])) schema) :
    schema = record m := by
  rcases held with ⟨content, media, kind, contentHeld, kindHeld, schemaHeld⟩
  rcases List.mem_append.mp (holds_record_iff.mp contentHeld) with other | own
  · exact absurd other (absent _)
  · obtain rfl := (Prod.mk.inj (List.mem_singleton.mp own)).2
    obtain ⟨name, rfl, listed⟩ := exists_of_holds_record kindHeld
    obtain rfl := (Prod.mk.inj (List.mem_singleton.mp listed)).2
    rw [holds_record_iff, List.mem_singleton] at schemaHeld
    exact (Prod.mk.inj schemaHeld).2

theorem response_refersTo (formed : n.WellFormed (known · = true))
    (described : Response.describe known n = .ok m) (held : HoldsContent (record m) schema) :
    schema.RefersTo (known · = true) := by
  rw [Response.describe, Attempt.map_eq_ok_iff] at described
  rcases described with ⟨content, contentEq, rfl⟩
  obtain rfl := eq_of_holdsContent [("description", _), ("headers", _)] (by simp) held
  exact Node.contentSchema?_refersTo formed contentEq

theorem body_refersTo {body : RequestBody} (formed : body.content.WellFormed (known · = true))
    (described : RequestBody.describe known body = .ok m)
    (held : HoldsContent (record m) schema) : schema.RefersTo (known · = true) := by
  rw [RequestBody.describe, Attempt.map_eq_ok_iff] at described
  rcases described with ⟨content, contentEq, rfl⟩
  obtain rfl := eq_of_holdsContent [("description", _), ("required", _)] (by simp) held
  exact Node.contentSchema?_refersTo formed contentEq

theorem parameter_refersTo {p : Parameter} (formed : p.node.WellFormed (known · = true))
    (described : p.describe known = .ok m) (held : (record m).Holds (.str "schema") schema) :
    schema.RefersTo (known · = true) := by
  rw [Parameter.describe, Attempt.map_eq_ok_iff] at described
  rcases described with ⟨content, contentEq, rfl⟩
  obtain rfl : schema = record content := by simpa using held
  exact Node.contentSchema?_refersTo formed contentEq

variable {e : Endpoint} {operation : Mapping}

theorem Endpoint.parameters_refersTo (formed : e.WellFormed (known · = true))
    (described : e.describe known = .ok operation) {parameters : List Value}
    (held : (record operation).Holds (.str "parameters") (.list parameters))
    (listed : v ∈ parameters) (schemaHeld : v.Holds (.str "schema") schema) :
    schema.RefersTo (known · = true) := by
  obtain ⟨declared, list, responses, entries, body, declaredEq, listEq, -, -, -, rfl⟩ :=
    describe_eq_ok described
  obtain ⟨_, declaredEq', wellFormed⟩ := formed.parameters
  obtain rfl := Held.declared.inj (declaredEq.symm.trans declaredEq')
  have listHere : parameters = list.map record := by
    by_cases given : e.description.isGiven <;> cases body <;> simpa [given] using held
  subst listHere
  obtain ⟨m, mListed, rfl⟩ := List.mem_map.mp listed
  obtain ⟨p, pListed, pEq⟩ := Attempt.exists_of_mem_right (Attempt.mapM_eq_ok_iff.mp listEq) mListed
  exact parameter_refersTo (wellFormed p pListed) pEq schemaHeld

theorem Endpoint.responses_refersTo (formed : e.WellFormed (known · = true))
    (described : e.describe known = .ok operation) {shown response code : Value}
    (held : (record operation).Holds (.str "responses") shown) (coded : shown.Holds code response)
    (content : HoldsContent response schema) : schema.RefersTo (known · = true) := by
  obtain ⟨declared, list, responses, entries, body, -, -, responsesEq, entriesEq, -, rfl⟩ :=
    describe_eq_ok described
  obtain ⟨_, responsesEq', wellFormed⟩ := formed.responses
  obtain rfl := Held.declared.inj (responsesEq.symm.trans responsesEq')
  have shownHere : shown = .dict (entries.map fun r => (Value.int r.1, record r.2)) := by
    by_cases given : e.description.isGiven <;> cases body <;> simpa [given] using held
  subst shownHere
  obtain ⟨k, listed, -⟩ := holds_dict_iff.mp coded
  obtain ⟨entry, entryListed, equal⟩ := List.mem_map.mp listed
  cases equal
  obtain ⟨built, pairs, rfl⟩ := describeAll_eq_ok_iff.mp entriesEq
  obtain ⟨declared, declaredListed, -, n, nEq, nDescribed⟩ :=
    Attempt.exists_of_mem_right pairs (Entries.mem_ofList entryListed)
  obtain ⟨-, -, _, nEq', nFormed⟩ := wellFormed _ declaredListed
  obtain rfl := Except.ok.inj (nEq.symm.trans nEq')
  exact response_refersTo nFormed nDescribed content

theorem Endpoint.body_refersTo (formed : e.WellFormed (known · = true))
    (described : e.describe known = .ok operation) {shown : Value}
    (held : (record operation).Holds (.str "requestBody") shown)
    (content : HoldsContent shown schema) : schema.RefersTo (known · = true) := by
  obtain ⟨declared, list, responses, entries, body, -, -, -, -, bodyEq, rfl⟩ :=
    describe_eq_ok described
  cases bodyHere : e.body with
  | none =>
      rw [bodyHere, Option.mapM_none, Attempt.pure_eq_ok_iff] at bodyEq
      subst bodyEq
      by_cases given : e.description.isGiven <;> simp [given] at held
  | some standing =>
      rw [bodyHere, Option.mapM_some, Attempt.fmap_eq_ok_iff] at bodyEq
      rcases bodyEq with ⟨m, mEq, rfl⟩
      have shownHere : shown = record m := by
        by_cases given : e.description.isGiven <;> simpa [given] using held
      subst shownHere
      obtain ⟨n, nEq, nFormed⟩ := formed.body standing bodyHere
      cases standing with
      | declared slot =>
          obtain rfl : slot.content = n := by simpa using nEq
          exact body_refersTo nFormed mEq content
      | component c => simp [describeBody] at mEq
      | value other => simp [describeBody] at mEq

end Description

/-! ### References in documents -/

namespace Registry

variable {r : Registry} {info : DocumentInfo} {paths : Entries Value (Entries Value Mapping)}
  {schemas : Entries String Mapping}

/-- An operation of a document is the description of an endpoint. -/
theorem exists_of_holdsOperation (pathsEq : r.paths = .ok paths) {operation : Value}
    (held : HoldsOperation (record (sections info paths schemas)) operation) :
    ∃ e ∈ r.endpoints, ∃ m, e.describe r.has = .ok m ∧ operation = record m := by
  rcases held with ⟨_, operations, path, verb, pathsHeld, pathHeld, verbHeld⟩
  obtain rfl : _ = pathsValue paths := by simpa [sections] using pathsHeld
  obtain ⟨_, pathMember, -⟩ := holds_dict_iff.mp pathHeld
  obtain ⟨entry, entryMember, equal⟩ := List.mem_map.mp pathMember
  cases equal
  obtain ⟨_, verbMember, -⟩ := holds_dict_iff.mp verbHeld
  obtain ⟨described, describedMember, equal⟩ := List.mem_map.mp verbMember
  cases equal
  rcases mem_enterEndpoints pathsEq entryMember describedMember with
    ⟨_, none, -⟩ | ⟨e, eMember, eEq⟩
  · simp at none
  · exact ⟨e, eMember, _, eEq, rfl⟩

/-- The references in a document are to known components, before its keys become
texts. -/
theorem sections_refersTo (clean : r.problems = .ok []) (pathsEq : r.paths = .ok paths)
    (schemasEq : r.schemas = .ok schemas) {schema : Value}
    (root : RootSchema (record (sections info paths schemas)) schema) :
    schema.RefersTo (r.has · = true) := by
  obtain ⟨-, components, endpoints⟩ := problems_eq_ok_nil_iff.mp clean
  cases root with
  | component held schemasHeld named =>
      obtain rfl : _ = record [("schemas", schemasValue schemas)] := by
        simpa [sections] using held
      obtain rfl : _ = schemasValue schemas := by simpa using schemasHeld
      obtain ⟨name, rfl, listed⟩ := exists_of_holds_record named
      rw [Entries.mapValues, List.mem_map] at listed
      rcases listed with ⟨entry, entryMember, equal⟩
      cases equal
      obtain ⟨built, pairs, rfl⟩ := enterComponents_eq_ok_iff.mp schemasEq
      obtain ⟨c, cMember, -, shown⟩ :=
        Attempt.exists_of_mem_right pairs (Entries.mem_ofList entryMember)
      exact Node.schema?_refersTo (components c cMember) shown
  | parameter held parametersHeld listed described =>
      obtain ⟨e, eMember, m, eEq, rfl⟩ := exists_of_holdsOperation pathsEq held
      exact Endpoint.parameters_refersTo (endpoints e eMember) eEq parametersHeld listed described
  | body held bodyHeld content =>
      obtain ⟨e, eMember, m, eEq, rfl⟩ := exists_of_holdsOperation pathsEq held
      exact Endpoint.body_refersTo (endpoints e eMember) eEq bodyHeld content
  | response held responsesHeld coded content =>
      obtain ⟨e, eMember, m, eEq, rfl⟩ := exists_of_holdsOperation pathsEq held
      exact Endpoint.responses_refersTo (endpoints e eMember) eEq responsesHeld coded content

/-- Where names differ, a name is that of one component only. -/
theorem filter_name_eq_singleton {components : List Component}
    (distinct : (components.map (·.name)).Nodup) {c : Component} (member : c ∈ components) :
    components.filter (·.name == c.name) = [c] := by
  induction components with
  | nil => simp at member
  | cons first rest ih =>
      obtain ⟨absent, distinct⟩ := List.nodup_cons.mp distinct
      rcases List.mem_cons.mp member with rfl | later
      · have none : rest.filter (·.name == c.name) = [] := by
          rw [List.filter_eq_nil_iff]
          intro other listed same
          exact absent (List.mem_map.mpr ⟨other, listed, by simpa using same⟩)
        simp [none]
      · have different : (first.name == c.name) = false := by
          rw [beq_eq_false_iff_ne]
          intro same
          exact absent (List.mem_map.mpr ⟨c, later, same.symm⟩)
        simp [different, ih distinct later]

/-- Where names differ, the document holds the schema of every component under its
name. -/
theorem descend?_component (distinct : r.names.Nodup) (schemasEq : r.schemas = .ok schemas)
    {document : Value}
    (converted : (record (sections info paths schemas)).withTextKeys? = some document)
    {c : Component} (member : c ∈ r.components) :
    ∃ m w, c.node.schema? r.has = .ok m ∧ (record m).withTextKeys? = some w ∧
      document.descend? ["components", "schemas", c.name] = some w := by
  obtain ⟨m, mEq, found⟩ := get?_enterComponents distinct schemasEq member
  have distinctSchemas : (Entries.mapValues record schemas).keys.Nodup := by
    rw [Entries.keys_mapValues]
    exact nodup_keys_enterComponents schemasEq
  have componentsFound : (sections info paths schemas).get? "components" =
      some (record [("schemas", schemasValue schemas)]) := by
    simp [sections, Entries.get?_cons]
  have schemasFound : Entries.get? [("schemas", schemasValue schemas)] "schemas" =
      some (schemasValue schemas) := by
    simp [Entries.get?_cons]
  have schemaFound : (Entries.mapValues record schemas).get? c.name = some (record m) := by
    rw [Entries.get?_mapValues, found, Option.map_some]
  obtain ⟨_, componentsEq, componentsAt⟩ :=
    descend?_withTextKeys? (by simp [sections]) converted "components" componentsFound
  obtain ⟨_, shownEq, schemasAt⟩ :=
    descend?_withTextKeys? (by simp) componentsEq "schemas" schemasFound
  obtain ⟨w, wEq, schemaAt⟩ :=
    descend?_withTextKeys? distinctSchemas shownEq c.name schemaFound
  exact ⟨m, w, mEq, wEq, by rw [componentsAt, schemasAt, schemaAt, descend?_nil]⟩

/-- Every reference in the document of a registry without malformed declarations is to a
component: exactly one has the name, and the document holds its schema under that
name. -/
theorem references_resolve (clean : r.problems = .ok []) {strict : Bool} {document : Value}
    (compiled : (r.compile info strict).result = .ok document) {schema ref : Value}
    (stands : SchemaIn document schema) (held : schema.Holds (.str "$ref") ref) :
    ∃ name c m w, ref = .str (componentsPath ++ name) ∧
      r.components.filter (·.name == name) = [c] ∧
      c.node.schema? r.has = .ok m ∧ (record m).withTextKeys? = some w ∧
      document.descend? ["components", "schemas", name] = some w := by
  obtain ⟨paths, schemas, pathsEq, schemasEq, converted⟩ :=
    document_eq_ok_iff.mp (document_of_compile compiled)
  obtain ⟨distinct, -, -⟩ := problems_eq_ok_nil_iff.mp clean
  obtain ⟨before, ⟨root, rootStands, inside⟩, beforeEq⟩ := stands.origin converted
  obtain ⟨refBefore, heldBefore, refEq⟩ := held.origin beforeEq
  obtain ⟨name, rfl, known⟩ :=
    sections_refersTo clean pathsEq schemasEq rootStands before refBefore inside heldBefore
  obtain ⟨c, member, rfl⟩ := List.mem_map.mp (has_eq_true_iff.mp known)
  obtain ⟨m, w, mEq, wEq, found⟩ := descend?_component distinct schemasEq converted member
  refine ⟨c.name, c, m, w, ?_, filter_name_eq_singleton distinct member, mEq, wEq, found⟩
  simpa [withTextKeys?] using refEq.symm

/-- Orders with lines, with which one operation answers. -/
def orders : Registry :=
  ⟨[⟨"Order", .mk { Facets.blank with type := .named "object" } [
      ("lines", ⟨true, .mk { Facets.blank with type := .named "array", element := "Line" } []⟩)]⟩,
    ⟨"Line", .mk { Facets.blank with type := .named "object" } []⟩],
   [⟨.str "/orders", .str "", .list [.str "get"], .declared [], none,
      .declared [(.str "ok", .declared
        (.mk { Facets.blank with type := .named "array", reference := "Order" } []))]⟩]⟩

/-- The document of the orders. -/
def ordersDocument : Value :=
  record [("openapi", .str "3.0.0"),
    ("info", record [("title", .str "API"), ("description", .str ""), ("version", .str "1.0")]),
    ("paths", record [("/orders", record [("get", record [("parameters", .list []),
      ("responses", record [("200", record [("description", .str ""), ("headers", record []),
        ("content", record [("application/json", record [("schema", record [
          ("type", .str "array"), ("items", record (refTo "Order"))])])])])])])])]),
    ("components", record [("schemas", record [
      ("Order", record [("type", .str "object"), ("description", .str ""),
        ("required", .list [.str "lines"]),
        ("properties", record [("lines", record [("type", .str "array"),
          ("description", .str ""), ("items", record (refTo "Line"))])])]),
      ("Line", record [("type", .str "object"), ("description", .str "")])])])]

/-- The lines of an order refer to the component that describes a line. -/
theorem references_resolve_orders :
    orders.problems = .ok [] ∧ (orders.compile .standard true).result = .ok ordersDocument ∧
      ∃ schema, SchemaIn ordersDocument schema ∧
        schema.Holds (.str "$ref") (.str "#/components/schemas/Line") ∧
        ∃ name c m w, Value.str "#/components/schemas/Line" = .str (componentsPath ++ name) ∧
          orders.components.filter (·.name == name) = [c] ∧
          c.node.schema? orders.has = .ok m ∧ (record m).withTextKeys? = some w ∧
          ordersDocument.descend? ["components", "schemas", name] = some w := by
  have clean : orders.problems = .ok [] := by decide +kernel
  have compiled : (orders.compile .standard true).result = .ok ordersDocument := by
    decide +kernel
  have stands : SchemaIn ordersDocument (record (refTo "Line")) :=
    ⟨_,
      .component (holds_record_iff.mpr (.tail _ (.tail _ (.tail _ (.head _)))))
        (holds_record_iff.mpr (.head _)) (holds_record_iff.mpr (.head _)),
      .property (holds_record_iff.mpr (.tail _ (.tail _ (.tail _ (.head _)))))
        (holds_record_iff.mpr (.head _))
        (.items (holds_record_iff.mpr (.tail _ (.tail _ (.head _)))) (.here _))⟩
  have held : (record (refTo "Line")).Holds (.str "$ref") (.str "#/components/schemas/Line") :=
    holds_record_iff.mpr (.head _)
  exact ⟨clean, compiled, _, stands, held, references_resolve clean compiled stands held⟩

end Registry

end ApiContract
