import ApiContract.Proofs.Document.Contents
import ApiContract.Proofs.Document.Listing
import ApiContract.Proofs.Document.MadeOf
import ApiContract.Proofs.Value.Normalized

/-!
# What texts for keys leave of a document

Keys that display alike become one, so replacing keys by their texts may lose entries.
It loses none of those that a document is built of: its paths, operations, responses and
parameters, its components, and the properties in all of its schemas.  What is free to
lose entries is what declarations bring with them, as the values that are allowed.
-/

namespace ApiContract

open Value (record)

/-- What a part of a document is. -/
inductive DocumentPart where
  | document | paths | operations | operation | parameters | parameter | responses
  | described | content | media | components | schemas | schema | members
  /-- What is given, and not built. -/
  | free
  deriving DecidableEq

namespace Value

variable {α : Type} {entries : Entries Value α}

/-- Entries stand under texts, each of which occurs once. -/
structure ByText (entries : Entries Value α) : Prop where
  strings : ∀ e ∈ entries, e.1.isString = true
  distinct : entries.keys.Nodup

theorem byText_nil : ByText ([] : Entries Value α) :=
  ⟨by simp, List.nodup_nil⟩

theorem byText_record {m : Mapping} (distinct : m.keys.Nodup) :
    ByText (m.map fun e => (Value.str e.1, e.2)) := by
  constructor
  · rw [List.forall_mem_map]
    exact fun _ _ => rfl
  · rw [keys_record]
    exact distinct.map fun _ _ => str.inj

theorem ByText.mapValues {β : Type} (byText : ByText entries) (f : α → β) :
    ByText (Entries.mapValues f entries) := by
  constructor
  · rw [Entries.mapValues, List.forall_mem_map]
    exact byText.strings
  · rw [Entries.keys_mapValues]
    exact byText.distinct

/-- Storing under a text replaces what stands under this very text. -/
theorem ByText.putKey (byText : ByText entries) {k : Value} (string : k.isString = true) (a : α) :
    ByText (putKey entries k a) := by
  have plain : Value.putKey entries k a = Entries.put entries k a :=
    Entries.putBy_congr (fun e member => sameKey_eq_beq (byText.strings e member) string) a
  constructor
  · intro e member
    rcases Entries.key_of_mem_putBy member with stored | listed
    · exact stored ▸ string
    · obtain ⟨other, otherListed, same⟩ := List.mem_map.mp listed
      exact same ▸ byText.strings other otherListed
  · rw [plain]
    exact Entries.nodup_keys_put entries k a byText.distinct

end Value

namespace DocumentPart

/-- The part that stands under a text in a part. -/
def under : DocumentPart → Value → DocumentPart
  | .document, .str "paths" => .paths
  | .document, .str "components" => .components
  | .paths, _ => .operations
  | .operations, _ => .operation
  | .operation, .str "parameters" => .parameters
  | .operation, .str "responses" => .responses
  | .operation, .str "requestBody" => .described
  | .parameter, .str "schema" => .schema
  | .responses, _ => .described
  | .described, .str "content" => .content
  | .content, _ => .media
  | .media, .str "schema" => .schema
  | .components, .str "schemas" => .schemas
  | .schemas, _ => .schema
  | .schema, .str "properties" => .schemas
  | .schema, .str "items" => .schema
  | .schema, .str "anyOf" => .members
  | _, _ => .free

/-- What the items of a part are. -/
def item : DocumentPart → DocumentPart
  | .parameters => .parameter
  | .members => .schema
  | _ => .free

/-- A part of a document is carried over into another: entry by entry under the texts of
their keys, which are different, and item by item, down to what is free. -/
inductive Carried : DocumentPart → Value → Value → Prop
  | free {v w : Value} (converted : v.withTextKeys? = some w) : Carried .free v w
  | list {part : DocumentPart} {items shown : List Value} (length : items.length = shown.length)
      (each : ∀ v w, (v, w) ∈ items.zip shown → Carried part.item v w) :
      Carried part (.list items) (.list shown)
  | dict {part : DocumentPart} {entries : List (Value × Value)} {shown : Entries Value Value}
      (keys : shown.keys.map some = entries.map (·.1.displayed?)) (distinct : shown.keys.Nodup)
      (each : ∀ e t, (e, t) ∈ entries.zip shown → Carried (part.under t.1) e.2 t.2) :
      Carried part (.dict entries) (.dict shown)

/-- A value is carried over as a part of a document when its keys are replaced by texts. -/
def Carries (part : DocumentPart) (v : Value) : Prop :=
  ∀ w, v.withTextKeys? = some w → part.Carried v w

/-- Entries under different names are each carried over. -/
structure Lays (part : DocumentPart) (m : Mapping) : Prop where
  distinct : m.keys.Nodup
  each : ∀ e ∈ m, (part.under (.str e.1)).Carries e.2

variable {part : DocumentPart} {v : Value}

theorem carries_free (v : Value) : free.Carries v :=
  fun _ converted => .free converted

theorem carries_list {items : List Value} (each : ∀ v ∈ items, part.item.Carries v) :
    part.Carries (.list items) := by
  intro w converted
  rw [Value.withTextKeys?, Option.map_eq_some_iff] at converted
  obtain ⟨shown, shownEq, rfl⟩ := converted
  obtain ⟨length, pairs⟩ :=
    List.forall₂_iff_zip.mp (Value.itemsWithTextKeys?_eq_some_iff.mp shownEq)
  exact .list length fun v w member => each v (List.of_mem_zip member).1 w (pairs member)

/-- A dictionary whose keys display differently is carried over if what it holds is. -/
theorem carries_dict {entries : List (Value × Value)}
    (distinct : ∀ texts : List Value, texts.map some = entries.map (·.1.displayed?) → texts.Nodup)
    (each : ∀ e ∈ entries, ∀ key, e.1.displayed? = some key → (part.under key).Carries e.2) :
    part.Carries (.dict entries) := by
  intro w converted
  rw [Value.withTextKeys?, Option.map_eq_some_iff] at converted
  obtain ⟨texts, textsEq, rfl⟩ := converted
  have pairs : List.Forall₂ Value.Becomes entries texts :=
    Value.entriesWithTextKeys?_eq_some_iff.mp textsEq
  have keys := Value.map_keys_of_becomes pairs
  have distinctTexts := distinct _ keys
  rw [Entries.ofList_eq_self distinctTexts]
  refine .dict keys distinctTexts fun e t member => ?_
  obtain ⟨shown, becomes⟩ : Value.Becomes e t := (List.forall₂_iff_zip.mp pairs).2 member
  exact each e (List.of_mem_zip member).1 t.1 shown t.2 becomes

/-- A dictionary under different texts is carried over if what it holds is. -/
theorem carries_dict_of_byText {entries : List (Value × Value)} (byText : Value.ByText entries)
    (each : ∀ e ∈ entries, (part.under e.1).Carries e.2) : part.Carries (.dict entries) := by
  have displays : entries.map (·.1.displayed?) = (Entries.keys entries).map some := by
    rw [Entries.keys, List.map_map]
    exact List.map_congr_left fun e member =>
      Value.displayed?_of_isString (byText.strings e member)
  apply carries_dict
  · intro texts equal
    rw [displays] at equal
    rw [List.map_injective_iff.mpr (Option.some_injective _) equal]
    exact byText.distinct
  · intro e member key shown
    rw [Value.displayed?_of_isString (byText.strings e member), Option.some.injEq] at shown
    exact shown ▸ each e member

/-- A record is carried over if its entries are. -/
theorem Lays.carries {m : Mapping} (lays : part.Lays m) : part.Carries (record m) := by
  apply carries_dict_of_byText (Value.byText_record lays.distinct)
  rw [List.forall_mem_map]
  exact lays.each

/-- Entries that are left out leave the others as they are. -/
theorem Lays.filter {m : Mapping} (lays : part.Lays m) (p : String × Value → Bool) :
    part.Lays (m.filter p) := by
  constructor
  · exact lays.distinct.sublist ((List.filter_sublist (p := p)).map _)
  · exact fun e member => lays.each e (List.mem_of_mem_filter member)

end DocumentPart

open DocumentPart (Carries Lays carries_free carries_list carries_dict carries_dict_of_byText)

/-! ### Schemas -/

namespace Face

variable {registered : String → Bool} {block : Mapping}
  (isBlock : IsBlock block) (distinct : block.keys.Nodup)

include isBlock in
theorem not_mem_keys_block {key : String} (other : key ∉ listingNames) : key ∉ block.keys :=
  fun inside => other (isBlock inside)

include isBlock distinct

theorem nodup_keys_items (element : Option String) (nullable : Bool) :
    Entries.keys ((elementEntry registered element).toList ++ marks nullable block) |>.Nodup := by
  have apart : ∀ key ∈ ["$ref", "type", "nullable"], key ∉ block.keys := by
    intro key member
    apply not_mem_keys_block isBlock
    revert key
    decide
  simp only [List.forall_mem_cons] at apart
  cases element with
  | none => cases nullable <;> simp [elementEntry, marks, nullableEntry, apart, distinct]
  | some name =>
      by_cases component : registered name <;> cases nullable <;>
        simp [elementEntry, marks, nullableEntry, component, apart, distinct]

/-- No key of a schema occurs twice. -/
theorem nodup_keys_schema (face : Face) : (face.schema registered block).keys.Nodup := by
  have apart : ∀ key ∈ ["type", "description", "enum", "nullable"], key ∉ block.keys := by
    intro key member
    apply not_mem_keys_block isBlock
    revert key
    decide
  simp only [List.forall_mem_cons] at apart
  cases face with
  | reference target nullable =>
      cases nullable <;> simp [schema, refTo, marks, nullableEntry]
  | references target => simp [schema]
  | array description nullable element => simp [schema]
  | union members description allowed nullable =>
      cases allowed <;> cases nullable <;> simp [schema, values, marks, enumEntry, nullableEntry]
  | plain type description allowed nullable =>
      cases type <;> cases allowed <;> cases nullable <;>
        simp [schema, values, marks, typeEntry, enumEntry, nullableEntry, apart, distinct]

omit isBlock distinct

/-- What is under other keys of a schema is given. -/
theorem carries_given {m : Mapping} (given : m.keys ⊆ Node.otherNames) :
    ∀ e ∈ m, (DocumentPart.schema.under (.str e.1)).Carries e.2 := by
  have free : ∀ key ∈ Node.otherNames, DocumentPart.schema.under (.str key) = .free := by decide
  intro e member
  rw [free e.1 (given (List.mem_map_of_mem member))]
  exact carries_free e.2

theorem lays_refTo (name : String) : DocumentPart.schema.Lays (refTo name) :=
  ⟨by simp [refTo], carries_given (by simp [refTo, Node.otherNames])⟩

theorem lays_type (v : Value) : DocumentPart.schema.Lays [("type", v)] :=
  ⟨by simp, carries_given (by simp [Node.otherNames])⟩

include isBlock distinct

/-- A schema is carried over if what it shows of properties is. -/
theorem lays_schema (carried : ∀ e ∈ block, (DocumentPart.schema.under (.str e.1)).Carries e.2)
    (face : Face) : DocumentPart.schema.Lays (face.schema registered block) := by
  refine ⟨nodup_keys_schema isBlock distinct face, ?_⟩
  have null (nullable : Bool) : ∀ e ∈ (nullableEntry nullable).toList,
      (DocumentPart.schema.under (.str e.1)).Carries e.2 :=
    carries_given (List.Subset.trans (keys_nullableEntry nullable) (by simp [Node.otherNames]))
  have enum (allowed : Option (List Value)) : ∀ e ∈ (enumEntry allowed).toList,
      (DocumentPart.schema.under (.str e.1)).Carries e.2 :=
    carries_given (List.Subset.trans (keys_enumEntry allowed) (by simp [Node.otherNames]))
  cases face with
  | reference target nullable =>
      rw [schema, marks, List.append_nil]
      exact List.forall_mem_append.mpr ⟨(lays_refTo target).each, null nullable⟩
  | references target =>
      simp only [schema, List.forall_mem_cons]
      exact ⟨carries_free _, (lays_refTo target).carries, by simp⟩
  | array description nullable element =>
      have own := carries_given (m := (elementEntry registered element).toList)
        (List.Subset.trans (keys_elementEntry element) (by simp [Node.otherNames]))
      have items : DocumentPart.schema.Lays
          ((elementEntry registered element).toList ++ marks nullable block) := by
        refine ⟨nodup_keys_items isBlock distinct element nullable, ?_⟩
        rw [marks]
        simp only [List.forall_mem_append]
        exact ⟨own, null nullable, carried⟩
      simp only [schema, List.forall_mem_cons]
      exact ⟨carries_free _, carries_free _, items.carries, by simp⟩
  | union members description allowed nullable =>
      have each : DocumentPart.members.Carries
          (.list (members.map fun m => record [("type", m)])) := by
        apply carries_list
        rw [List.forall_mem_map]
        exact fun m _ => (lays_type m).carries
      simp only [schema, values, marks, List.append_nil, List.forall_mem_cons,
        List.forall_mem_append]
      exact ⟨each, carries_free _, enum allowed, null nullable⟩
  | plain type description allowed nullable =>
      have own := carries_given (m := (typeEntry type).toList)
        (List.Subset.trans (keys_typeEntry type) (by simp [Node.otherNames]))
      simp only [schema, values, marks, List.forall_mem_cons, List.forall_mem_append]
      exact ⟨own, carries_free _, enum allowed, null nullable, carried⟩

end Face

namespace Node

variable {registered : String → Bool} {n : Node}

/-- The properties in what is shown of them are carried over by name. -/
theorem carries_block (names : n.properties.keys.Nodup)
    (schemas : ∀ p ∈ n.properties,
      DocumentPart.schema.Carries (record (p.2.content.schema registered))) :
    ∀ e ∈ n.block registered, (DocumentPart.schema.under (.str e.1)).Carries e.2 := by
  have properties : DocumentPart.schemas.Lays (n.propertySchemas registered) := by
    constructor
    · rwa [keys_propertySchemas]
    · rw [propertySchemas, List.forall_mem_map]
      exact fun p member => schemas p member
  rintro ⟨key, v⟩ member
  have listed := keys_block_subset n (List.mem_map_of_mem member)
  simp only [listingNames, List.mem_cons, List.not_mem_nil, or_false] at listed
  rcases listed with rfl | rfl
  · exact carries_free v
  · rw [eq_of_mem_block member]
    exact properties.carries

theorem nodup_keys_block (n : Node) : (n.block registered).keys.Nodup := by
  rw [block, propertiesBlock_eq ne_nil_of_mem_schemas, requiredEntry, propertiesEntry]
  split <;> split <;> simp

/-- The schema of a node is carried over, with those of the properties in it. -/
theorem lays_schema (distinct : n.Distinct) :
    DocumentPart.schema.Lays (n.schema registered) := by
  induction n with
  | mk f properties ih =>
      rw [schema_eq_facets, Facets.schema_eq]
      split
      · apply Face.lays_schema (keys_block_subset _) (nodup_keys_block _)
        apply carries_block distinct.names
        rintro ⟨name, slot⟩ member
        exact (ih name slot member (distinct.property member)).carries
      · exact Face.lays_schema Face.isBlock_nil List.nodup_nil (by simp) _

theorem lays_contentSchema (distinct : n.Distinct) {m : Mapping}
    (compiled : n.contentSchema? registered = .ok m) : DocumentPart.schema.Lays m := by
  obtain ⟨whole, wholeEq, rfl⟩ := Attempt.map_eq_ok_iff.mp compiled
  obtain ⟨-, rfl⟩ := schema?_eq_ok_iff.mp wholeEq
  exact (lays_schema distinct).filter _

end Node

/-! ### Operations -/

namespace Endpoint

variable {registered : String → Bool} {e : Endpoint} {m : Mapping}

theorem carries_contentOf {schema : Mapping} (lays : DocumentPart.schema.Lays schema) :
    DocumentPart.content.Carries (contentOf schema) := by
  have media : DocumentPart.media.Lays [("schema", record schema)] :=
    ⟨by simp, List.forall_mem_singleton.mpr lays.carries⟩
  have content : DocumentPart.content.Lays [(contentType, record [("schema", record schema)])] :=
    ⟨by simp, List.forall_mem_singleton.mpr media.carries⟩
  exact content.carries

theorem lays_parameter {p : Parameter} (distinct : p.node.Distinct)
    (described : p.describe registered = .ok m) : DocumentPart.parameter.Lays m := by
  obtain ⟨schema, schemaEq, rfl⟩ := Attempt.map_eq_ok_iff.mp described
  refine ⟨by simp, ?_⟩
  simp only [List.forall_mem_cons]
  exact ⟨carries_free _, carries_free _, carries_free _, carries_free _,
    (Node.lays_contentSchema distinct schemaEq).carries, by simp⟩

theorem lays_response {n : Response} (distinct : Node.Distinct n)
    (described : Response.describe registered n = .ok m) : DocumentPart.described.Lays m := by
  obtain ⟨schema, schemaEq, rfl⟩ := Attempt.map_eq_ok_iff.mp described
  refine ⟨by simp, ?_⟩
  simp only [List.forall_mem_cons]
  exact ⟨carries_free _, carries_free _,
    carries_contentOf (Node.lays_contentSchema distinct schemaEq), by simp⟩

theorem lays_body {body : RequestBody} (distinct : body.content.Distinct)
    (described : RequestBody.describe registered body = .ok m) :
    DocumentPart.described.Lays m := by
  obtain ⟨schema, schemaEq, rfl⟩ := Attempt.map_eq_ok_iff.mp described
  refine ⟨by simp, ?_⟩
  simp only [List.forall_mem_cons]
  exact ⟨carries_free _, carries_free _,
    carries_contentOf (Node.lays_contentSchema distinct schemaEq), by simp⟩

/-- Different codes are different texts. -/
theorem carries_codes {entries : Entries Int Mapping} (distinct : entries.keys.Nodup)
    (each : ∀ r ∈ entries, DocumentPart.described.Lays r.2) :
    DocumentPart.responses.Carries
      (.dict (entries.map fun r => (Value.int r.1, record r.2))) := by
  apply carries_dict
  · intro texts displays
    simp only [← List.forall₂_eq_eq_eq, List.map_map, List.forall₂_map_left_iff,
      List.forall₂_map_right_iff, Function.comp_apply] at displays
    have digits : texts = entries.keys.map fun code => Value.str (toString code) := by
      rw [← List.forall₂_eq_eq_eq, Entries.keys, List.map_map, List.forall₂_map_right_iff]
      exact displays.imp fun _ _ shown => Value.eq_of_displayed?_int shown.symm
    rw [digits]
    exact distinct.map fun _ _ equal => Value.toString_int_injective (Value.str.inj equal)
  · rw [List.forall_mem_map]
    exact fun r member _ _ => (each r member).carries

/-- What stands as the body of an operation is carried over. -/
theorem lays_describeBody {body : Standing RequestBody}
    (distinct : ∀ slot : RequestBody, body = .declared slot → slot.content.Distinct)
    (described : describeBody registered body = .ok m) : DocumentPart.described.Lays m := by
  cases body with
  | declared slot => exact lays_body (distinct slot rfl) described
  | component c => cases described
  | value v => cases described

/-- The description of an endpoint is carried over, with its parameters one by one and its
responses by code. -/
theorem lays_describe (nodes : ∀ n, e.Shows n → n.Distinct)
    (described : e.describe registered = .ok m) : DocumentPart.operation.Lays m := by
  obtain ⟨parameters, list, responses, entries, body, parametersEq, listEq, responsesEq,
    entriesEq, bodyEq, rfl⟩ := describe_eq_ok described
  have parametersCarried : DocumentPart.parameters.Carries (.list (list.map record)) := by
    apply carries_list
    rw [List.forall_mem_map]
    intro m member
    obtain ⟨p, listed, built⟩ :=
      Attempt.exists_of_mem_right (Attempt.mapM_eq_ok_iff.mp listEq) member
    exact (lays_parameter (nodes _ (.parameter parametersEq listed)) built).carries
  have responsesCarried : DocumentPart.responses.Carries
      (.dict (entries.map fun r => (Value.int r.1, record r.2))) := by
    obtain ⟨built, pairs, rfl⟩ := describeAll_eq_ok_iff.mp entriesEq
    apply carries_codes (Entries.nodup_keys_ofList built)
    intro entry member
    obtain ⟨response, listed, -, n, standing, built⟩ :=
      Attempt.exists_of_mem_right pairs (Entries.mem_ofList member)
    exact lays_response (nodes n (.response responsesEq listed standing)) built
  have bodyCarried : ∀ b, body = some b → DocumentPart.described.Carries (record b) := by
    rintro b rfl
    cases declared : e.body with
    | none => simp [declared] at bodyEq
    | some standing =>
        rw [declared] at bodyEq
        obtain ⟨described, describedEq, equal⟩ := Attempt.fmap_eq_ok_iff.mp bodyEq
        cases equal
        refine (lays_describeBody ?_ describedEq).carries
        rintro slot rfl
        exact nodes _ (.body declared)
  constructor
  · cases e.description.isGiven <;> cases body <;> simp
  · simp only [List.forall_mem_append, List.forall_mem_cons]
    refine ⟨⟨⟨parametersCarried, responsesCarried, by simp⟩, ?_⟩, ?_⟩
    · split
      · exact List.forall_mem_singleton.mpr (carries_free _)
      · simp
    · cases body with
      | none => simp
      | some b => exact List.forall_mem_singleton.mpr (bodyCarried b rfl)

end Endpoint

/-! ### Documents -/

/-- The path of an endpoint is a text or left out, and its operations are texts. -/
structure Endpoint.InStrings (e : Endpoint) : Prop where
  path : e.path = .null ∨ e.path.isString = true
  operations : ∃ verbs, e.operations = .list verbs ∧ ∀ verb ∈ verbs, verb.isString = true

theorem Endpoint.InStrings.typed {e : Endpoint} (strings : e.InStrings) : e.Typed := by
  rcases strings.operations with ⟨verbs, operations, each⟩
  exact ⟨strings.path.imp_right Value.isText_of_isString, verbs, operations,
    fun verb member => Value.isText_of_isString (each verb member)⟩

namespace Registry

variable {registered : String → Bool} {r : Registry}

/-- Entering operations under texts keeps each text once. -/
theorem byText_enterOperations {e : Endpoint} {verbs : List Value}
    (strings : ∀ verb ∈ verbs, verb.isString = true) {before after : Entries Value Mapping}
    (byText : Value.ByText before)
    (entered : e.enterOperations registered before verbs = .ok after) : Value.ByText after := by
  induction verbs generalizing before with
  | nil =>
      cases entered
      exact byText
  | cons verb rest ih =>
      obtain ⟨string, others⟩ := List.forall_mem_cons.mp strings
      rw [Endpoint.enterOperations, Attempt.do_eq_ok_iff] at entered
      rcases entered with ⟨operation, -, entered⟩
      rw [if_pos (Value.isKey_of_isText (Value.isText_of_isString string))] at entered
      exact ih others (byText.putKey string operation) entered

/-- So does entering endpoints, for paths and for the operations on each of them. -/
theorem byText_enterEndpoints {endpoints : List Endpoint}
    (strings : ∀ e ∈ endpoints, e.InStrings) {before after : Entries Value (Entries Value Mapping)}
    (byPath : Value.ByText before) (byVerb : ∀ path ∈ before, Value.ByText path.2)
    (entered : enterEndpoints registered before endpoints = .ok after) :
    Value.ByText after ∧ ∀ path ∈ after, Value.ByText path.2 := by
  induction endpoints generalizing before with
  | nil =>
      cases entered
      exact ⟨byPath, byVerb⟩
  | cons e rest ih =>
      rcases List.forall_mem_cons.mp strings with ⟨first, later⟩
      cases given : e.path.isGiven with
      | false =>
          rw [enterEndpoints_cons_of_not_isGiven registered given] at entered
          exact ih later byPath byVerb entered
      | true =>
          have path : e.path.isString = true := by
            rcases first.path with none | string
            · simp [none, Value.isGiven] at given
            · exact string
          rcases enterEndpoints_cons_of_isGiven registered first.typed given with
            ⟨verbs, operations, -, unfolded⟩
          rcases first.operations with ⟨_, same, verbStrings⟩
          cases operations.symm.trans same
          rw [unfolded, Attempt.do_eq_ok_iff] at entered
          rcases entered with ⟨described, describedEq, entered⟩
          have here : Value.ByText (operationsAt before e.path) := by
            rw [operationsAt]
            cases found : before.find? (Value.sameKey ·.1 e.path) with
            | none => exact Value.byText_nil
            | some entry => exact byVerb entry (List.mem_of_find?_eq_some found)
          refine ih later (byPath.putKey path described) (fun entry member => ?_) entered
          rcases Entries.mem_putBy member with old | stored
          · exact byVerb entry old
          · rw [stored]
            exact byText_enterOperations verbStrings here describedEq

/-- The schemas of the components are carried over by name. -/
theorem carries_schemasValue (nodes : ∀ c ∈ r.components, c.node.Distinct)
    {schemas : Entries String Mapping} (schemasEq : r.schemas = .ok schemas) :
    DocumentPart.schemas.Carries (schemasValue schemas) := by
  refine Lays.carries ⟨?_, ?_⟩
  · rw [Entries.keys_mapValues]
    exact nodup_keys_enterComponents schemasEq
  · obtain ⟨built, pairs, rfl⟩ := enterComponents_eq_ok_iff.mp schemasEq
    rw [Entries.mapValues, List.forall_mem_map]
    intro entry member
    obtain ⟨c, listed, -, schemaEq⟩ :=
      Attempt.exists_of_mem_right pairs (Entries.mem_ofList member)
    obtain ⟨-, equal⟩ := Node.schema?_eq_ok_iff.mp schemaEq
    rw [← equal]
    exact (Node.lays_schema (nodes c listed)).carries

/-- The operations are carried over by path and verb. -/
theorem carries_pathsValue (strings : ∀ e ∈ r.endpoints, e.InStrings)
    (nodes : ∀ e ∈ r.endpoints, ∀ n, e.Shows n → n.Distinct)
    {paths : Entries Value (Entries Value Mapping)} (pathsEq : r.paths = .ok paths) :
    DocumentPart.paths.Carries (pathsValue paths) := by
  have byText := byText_enterEndpoints strings Value.byText_nil (by simp) pathsEq
  apply carries_dict_of_byText (byText.1.mapValues operationsValue)
  rw [Entries.mapValues, List.forall_mem_map]
  intro path member
  change DocumentPart.operations.Carries (operationsValue path.2)
  apply carries_dict_of_byText ((byText.2 path member).mapValues record)
  rw [Entries.mapValues, List.forall_mem_map]
  intro entry listed
  rcases mem_enterEndpoints pathsEq member listed with ⟨before, none, -⟩ | ⟨e, declared, built⟩
  · cases none
  · exact (Endpoint.lays_describe (nodes e declared) built).carries

/-- Paths and operations are texts in a registry, and names are distinct in all of its nodes. -/
structure KeyedByTexts (r : Registry) : Prop where
  endpoints : ∀ e ∈ r.endpoints, e.InStrings
  nodes : ∀ n, r.Shows n → n.Distinct

/-- What is built by declaring is so, if paths were set to texts. -/
theorem Built.keyedByTexts (built : r.Built)
    (paths : ∀ e ∈ r.endpoints, e.path = .null ∨ e.path.isString = true) : r.KeyedByTexts := by
  constructor
  · intro e member
    rcases built.operations e member with ⟨verbs, operations⟩
    refine ⟨paths e member, _, operations, ?_⟩
    rw [List.forall_mem_map]
    exact fun _ _ => rfl
  · intro n shows
    cases shows with
    | component member => exact built.regular.components _ member
    | @endpoint e n member inside =>
        have regular := built.regular.endpoints e member
        cases inside with
        | parameter declared listed =>
            obtain ⟨parameters, equal, distinct⟩ := regular.parameters
            cases declared.symm.trans equal
            exact distinct _ listed
        | body declared =>
            obtain ⟨slot, equal, distinct⟩ := regular.body _ declared
            cases equal
            exact distinct
        | response declared listed standing =>
            obtain ⟨responses, equal, distinct⟩ := regular.responses
            cases declared.symm.trans equal
            obtain ⟨n, here, nDistinct⟩ := distinct _ listed
            rw [here] at standing
            cases standing
            exact nDistinct

theorem lays_sections (keyed : r.KeyedByTexts) (info : DocumentInfo)
    {paths : Entries Value (Entries Value Mapping)} {schemas : Entries String Mapping}
    (pathsEq : r.paths = .ok paths) (schemasEq : r.schemas = .ok schemas) :
    DocumentPart.document.Lays (sections info paths schemas) := by
  have operations := carries_pathsValue keyed.endpoints
    (fun e member n inside => keyed.nodes n (.endpoint member inside)) pathsEq
  have components : DocumentPart.components.Lays [("schemas", schemasValue schemas)] := by
    refine ⟨by simp, List.forall_mem_singleton.mpr ?_⟩
    exact carries_schemasValue (fun c member => keyed.nodes _ (.component member)) schemasEq
  refine ⟨by simp [sections], ?_⟩
  simp only [sections, List.forall_mem_cons]
  exact ⟨carries_free _, carries_free _, operations, components.carries, by simp⟩

/-- Replacing the keys of a value by their texts succeeds where they can be displayed, with the one
normal form of the value: texts for keys, each once, at the place of the first and with the value of
the last that displays so.  It changes nothing where keys are texts already, so not in its results
either.

In the document of a registry whose paths and operations are texts, as of one that is built by
declaring, it merges none of the paths, operations, responses, parameters, components and
properties that were put in. -/
theorem keys_become_texts :
    (∀ v : Value, (v.withTextKeys?.isSome = true ↔ v.KeysShown) ∧
      (∀ w, v.withTextKeys? = some w ↔ v.KeysShown ∧ v.Normalized w) ∧
      (∀ w, v.withTextKeys? = some w → w.Recorded ∧ w.withTextKeys? = some w) ∧
      (v.Recorded → v.withTextKeys? = some v)) ∧
    (∀ r : Registry, r.Built →
      (∀ e ∈ r.endpoints, e.path = .null ∨ e.path.isString = true) → r.KeyedByTexts) ∧
    ∀ (r : Registry) (info : DocumentInfo) (strict : Bool) (document : Value), r.KeyedByTexts →
      (r.compile info strict).result = .ok document →
      ∃ paths schemas, r.paths = .ok paths ∧ r.schemas = .ok schemas ∧
        DocumentPart.document.Carried (record (sections info paths schemas)) document := by
  refine ⟨fun v => ?_, fun r built paths => built.keyedByTexts paths, ?_⟩
  · refine ⟨Value.isSome_withTextKeys?_iff, fun w => Value.withTextKeys?_eq_some_iff,
      fun w converted => ?_, Value.Recorded.withTextKeys?_eq_self⟩
    have recorded := Value.recorded_of_withTextKeys? converted
    exact ⟨recorded, recorded.withTextKeys?_eq_self⟩
  · intro r info strict document keyed compiled
    obtain ⟨paths, schemas, pathsEq, schemasEq, converted⟩ :=
      document_eq_ok_iff.mp (document_of_compile compiled)
    exact ⟨paths, schemas, pathsEq, schemasEq,
      (lays_sections keyed info pathsEq schemasEq).carries document converted⟩

/-- Keys that display alike, at the top and in a list. -/
def colliding : Value :=
  .dict [(.int 1, .str "first"),
    (.str "within", .list [.dict [(.bool true, .null), (.str "True", .bool false)]]),
    (.str "1", .str "last")]

/-- Of keys that display alike one is left, and the document of a library has all that was put in
it. -/
theorem keys_become_texts_library :
    (∃ w, colliding.withTextKeys? = some w ∧ colliding.Normalized w ∧
      w = record [("1", .str "last"), ("within", .list [record [("True", .bool false)]])] ∧
      w.Recorded ∧ w.withTextKeys? = some w) ∧
    ∃ document paths schemas, (library.compile .standard false).result = .ok document ∧
      library.paths = .ok paths ∧ library.schemas = .ok schemas ∧
      DocumentPart.document.Carried (record (sections .standard paths schemas)) document := by
  obtain ⟨values, declared, compiles⟩ := keys_become_texts
  constructor
  · have converted : colliding.withTextKeys? =
        some (record [("1", .str "last"), ("within", .list [record [("True", .bool false)]])]) := by
      decide +kernel
    obtain ⟨-, normal, results, -⟩ := values colliding
    obtain ⟨recorded, again⟩ := results _ converted
    exact ⟨_, converted, ((normal _).mp converted).2, rfl, recorded, again⟩
  · have paths : ∀ e ∈ library.endpoints, e.path = .null ∨ e.path.isString = true := by
      simp [library, listing, shelves, Value.isString]
    have keyed := declared library built_library paths
    obtain ⟨document, compiled⟩ := exists_compile_library
    obtain ⟨paths, schemas, pathsEq, schemasEq, carried⟩ :=
      compiles library .standard false document keyed compiled
    exact ⟨document, paths, schemas, compiled, pathsEq, schemasEq, carried⟩

/-- A number of too many digits has no text to replace it, and a tag is replaced by its name though
it is written as a text. -/
theorem keys_without_own_text :
    (Value.dict [(.int Number.digitCeiling, .null)]).withTextKeys? = none ∧
      (Value.dict [(.tag .number, .null)]).withTextKeys? =
        some (.dict [(.str "TypeTag.NUMBER", .null)]) := by
  decide +kernel

end Registry

end ApiContract
