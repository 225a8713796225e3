import ApiContract.Proofs.Document.Keys
import ApiContract.Proofs.Document.Linked
import ApiContract.Proofs.Validator.Response
import ApiContract.Proofs.Value.TextKeys

/-!
# What stands in a document

A document has four layers that are filled entry by entry: paths, the operations
of a path, the responses of an operation, and the schemas of the components.  In
each of them keys stand in the order of their first declaration, and what stands
under a key is the last thing that is declared under it.  Making texts of all keys
in the end moves nothing and merges nothing.
-/

namespace ApiContract

open Value (record)

/-- A value shows a mapping: it is the mapping, with texts for all keys in it. -/
def ShownAs (m : Mapping) (v : Value) : Prop :=
  (record m).withTextKeys? = some v

/-- Mappings under different names are shown one by one. -/
theorem shown_mappings {named : Entries String Mapping} (distinct : named.keys.Nodup) {v : Value}
    (converted : (record (Entries.mapValues record named)).withTextKeys? = some v) :
    ∃ shown, v = record shown ∧ shown.keys = named.keys ∧
      ∀ name m, named.get? name = some m → ∃ w, shown.get? name = some w ∧ ShownAs m w := by
  have keys := Entries.keys_mapValues record named
  rw [← keys] at distinct
  rcases Value.exists_of_withTextKeys?_record distinct converted with
    ⟨shown, rfl, keysShown, found⟩
  refine ⟨shown, rfl, keysShown.trans keys, ?_⟩
  intro name m here
  have standing : (Entries.mapValues record named).get? name = some (record m) := by
    rw [Entries.get?_mapValues, here, Option.map_some]
  rcases found name _ standing with ⟨w, shown, foundHere⟩
  exact ⟨w, foundHere, shown⟩

namespace Endpoint

variable {registered : String → Bool} {e : Endpoint} {v : Value}

/-- A value shows the parameters of an endpoint one by one, and its responses by code: every code
once, as digits, where it is first declared, with the response that is last declared for it. -/
structure ShownIn (registered : String → Bool) (e : Endpoint) (v : Value) : Prop where
  parameters : ∃ parameters items, e.parameters = .declared parameters ∧
    v.descend? ["parameters"] = some (.list items) ∧
    List.Forall₂ (fun p item => ∃ m, Parameter.describe registered p = .ok m ∧ ShownAs m item)
      parameters items
  responses : ∃ responses codes shown, e.responses = .declared responses ∧
    List.Forall₂ (fun response code => Status.resolve response.1 = .ok code) responses codes ∧
    v.descend? ["responses"] = some (record shown) ∧
    shown.keys = codes.eraseDups.map toString ∧
    ∀ code ∈ codes, ∃ n m item, e.documented? code = some n ∧
      Response.describe registered n = .ok m ∧ shown.get? (toString code) = some item ∧
      ShownAs m item

/-- A list of mappings is shown one by one. -/
theorem shown_parameters {parameters : List Parameter} {described : List Mapping}
    (describedEq : parameters.mapM (Parameter.describe registered) = .ok described)
    (converted : (Value.list (described.map record)).withTextKeys? = some v) :
    ∃ items, v = .list items ∧
      List.Forall₂ (fun p item => ∃ m, Parameter.describe registered p = .ok m ∧ ShownAs m item)
        parameters items := by
  rw [Value.withTextKeys?, Option.map_eq_some_iff] at converted
  rcases converted with ⟨items, itemsEq, rfl⟩
  rw [Value.itemsWithTextKeys?_eq_some_iff, List.forall₂_map_left_iff] at itemsEq
  exact ⟨items, rfl, Attempt.forall₂_comp (Attempt.mapM_eq_ok_iff.mp describedEq) itemsEq⟩

/-- Descriptions by code are shown by the digits of their codes. -/
theorem shown_codes {entries : Entries Int Mapping} (distinct : entries.keys.Nodup)
    (converted : (Value.dict (entries.map fun r => (Value.int r.1, record r.2))).withTextKeys? =
      some v) :
    ∃ shown, v = record shown ∧ shown.keys = entries.keys.map toString ∧
      ∀ code m, entries.get? code = some m →
        ∃ item, shown.get? (toString code) = some item ∧ ShownAs m item := by
  have codes : Value.dict (entries.map fun r => (Value.int r.1, record r.2)) =
      .dict ((Entries.mapValues record entries).map fun e => (.int e.1, e.2)) := by
    rw [Entries.mapValues, List.map_map]
    rfl
  have names : (Entries.mapValues record entries).map (fun e => (toString e.1, e.2)) =
      Entries.mapValues record (entries.map fun e => (toString e.1, e.2)) := by
    rw [Entries.mapValues, Entries.mapValues, List.map_map, List.map_map]
    rfl
  have keys : Entries.keys (entries.map fun e => (toString e.1, e.2)) =
      entries.keys.map toString := by
    rw [Entries.keys, Entries.keys, List.map_map, List.map_map]
    rfl
  have distinctTexts := distinct.map Value.toString_int_injective
  rw [← keys] at distinctTexts
  rw [codes] at converted
  have records := Value.withTextKeys?_of_codes converted
  rw [names] at records
  rcases shown_mappings distinctTexts records with ⟨shown, rfl, keysShown, found⟩
  refine ⟨shown, rfl, keysShown.trans keys, ?_⟩
  intro code m described
  apply found
  rw [Entries.get?_mapKeys Value.toString_int_injective, described]

/-- The operation that an endpoint describes shows its parameters and its responses. -/
theorem shownIn_of_describe {operation : Mapping}
    (described : e.describe registered = .ok operation) (shown : ShownAs operation v) :
    e.ShownIn registered v := by
  obtain ⟨parameters, list, responses, entries, body, parametersEq, listEq, responsesEq,
    entriesEq, -, rfl⟩ := describe_eq_ok described
  have distinct : Entries.keys ([("parameters", .list (list.map record)),
        ("responses", .dict (entries.map fun r => (Value.int r.1, record r.2)))] ++
      (if e.description.isGiven then [("description", e.description)] else []) ++
      (body.map fun b => ("requestBody", record b)).toList) |>.Nodup := by
    cases e.description.isGiven <;> cases body <;> simp [Entries.keys]
  have parametersShown := Value.descend?_withTextKeys? distinct shown "parameters" rfl
  have responsesShown := Value.descend?_withTextKeys? distinct shown "responses" rfl
  constructor
  · rcases parametersShown with ⟨y, converted, found⟩
    rcases shown_parameters listEq converted with ⟨items, rfl, pairs⟩
    exact ⟨parameters, items, parametersEq, found [], pairs⟩
  · rcases responsesShown with ⟨y, converted, found⟩
    obtain ⟨built, pairs, rfl⟩ := describeAll_eq_ok_iff.mp entriesEq
    rcases shown_codes (Entries.nodup_keys_ofList built) converted with
      ⟨shown, rfl, keys, foundCode⟩
    have codes : List.Forall₂ (fun response code => Status.resolve response.1 = .ok code)
        responses (Entries.keys built) := by
      rw [Entries.keys, List.forall₂_map_right_iff]
      exact pairs.imp fun _ _ named => named.1
    refine ⟨responses, Entries.keys built, shown, responsesEq, codes, found [], ?_, ?_⟩
    · rw [keys]
      exact congrArg (List.map toString) (Entries.keys_ofList built)
    · intro code member
      have listed : code ∈ Entries.keys (Entries.ofList built) := by
        rw [Entries.keys_ofList, List.mem_eraseDups]
        exact member
      obtain ⟨m, foundHere⟩ := Option.isSome_iff_exists.mp (Entries.isSome_get?_iff.mpr listed)
      have last := @get?_describeAll registered code _ _ _ entriesEq
      change Entries.get? (Entries.putAll [] built) code = some m at foundHere
      rw [foundHere, Entries.get?_nil, Option.map_none, Option.or_none, Option.map_some] at last
      obtain ⟨n, lastEq, describedEq⟩ := Option.map_eq_some_iff.mp last.symm
      have documented : e.documented? code = some n := by
        rw [documented?, responsesUnder, responsesEq]
        exact lastEq
      rcases foundCode code m foundHere with ⟨item, foundItem, itemShown⟩
      exact ⟨n, m, item, documented, describedEq, foundItem, itemShown⟩

end Endpoint

namespace Registry

variable {r : Registry}

/-- Entering endpoints enters those with a path. -/
theorem enterEndpoints_filter (registered : String → Bool) (endpoints : List Endpoint)
    (before : Entries Value (Entries Value Mapping)) :
    enterEndpoints registered before (endpoints.filter (·.path.isGiven)) =
      enterEndpoints registered before endpoints := by
  induction endpoints generalizing before with
  | nil => rfl
  | cons e rest ih =>
      cases given : e.path.isGiven with
      | false =>
          rw [List.filter_cons_of_neg (by simp [given]), ih,
            enterEndpoints_cons_of_not_isGiven registered given]
      | true =>
          rw [List.filter_cons_of_pos (by simp [given])]
          simp only [enterEndpoints, given, ih]

/-- The operation of a verb on a path is that of the last endpoint that declares it. -/
theorem operation?_paths (texts : ∀ e ∈ r.endpoints, e.InTexts) {path : String}
    (given : path ≠ "") {paths : Entries Value (Entries Value Mapping)}
    (entered : r.paths = .ok paths) {verb : String} {operation : Mapping}
    (found : operation? paths (.str path) verb = some operation) :
    ∃ e, (r.declaring (.str path) verb).getLast? = some e ∧
      e.describe r.has = .ok operation := by
  have typed : ∀ e ∈ r.endpoints.filter (·.path.isGiven), e.Typed :=
    fun e member => (texts e (List.mem_of_mem_filter member)).typed
  have pathsGiven : ∀ e ∈ r.endpoints.filter (·.path.isGiven), e.path.isGiven = true :=
    fun e member => (List.mem_filter.mp member).2
  have declaring : (r.endpoints.filter (·.path.isGiven)).filter (·.declares (.str path) verb) =
      r.declaring (.str path) verb := by
    rw [List.filter_filter, Registry.declaring]
    apply List.filter_congr
    intro e member
    rcases (texts e member).path with none | ⟨other, text⟩
    · simp [Endpoint.declares_eq (texts e member).operations, none, Value.same, Value.sameKey,
        Value.text?, Value.number?]
    · by_cases same : other = path
      · simp [text, same, given, Value.isGiven]
      · simp [Endpoint.declares_eq (texts e member).operations, text, same, Value.same]
  rw [Registry.paths, ← enterEndpoints_filter] at entered
  have sought : (Value.str path).isText = true := rfl
  have last := operation?_enterEndpoints typed pathsGiven sought entered verb
  rw [found, declaring, Option.map_some] at last
  have none : operation? [] (.str path) verb = none := rfl
  rw [none, Option.map_none, Option.or_none] at last
  exact Option.map_eq_some_iff.mp last.symm

/-- A document is made of its sections: texts are put for keys in the operations by path and in the
schemas of the components, and nowhere else. -/
theorem exists_of_shown_sections {info : DocumentInfo}
    {paths : Entries Value (Entries Value Mapping)} {schemas : Entries String Mapping}
    {document : Value}
    (converted : (record (sections info paths schemas)).withTextKeys? = some document) :
    ∃ shownPaths shownSchemas, (pathsValue paths).withTextKeys? = some shownPaths ∧
      (schemasValue schemas).withTextKeys? = some shownSchemas ∧
      document = record [("openapi", .str formatVersion), ("info", record info.toMapping),
        ("paths", shownPaths), ("components", record [("schemas", shownSchemas)])] := by
  simp only [record, sections, DocumentInfo.toMapping, List.map_cons, List.map_nil,
    Value.withTextKeys?, Value.entriesWithTextKeys?, Value.displayed?_str, Option.bind_eq_bind,
    Option.pure_def, Option.bind_some, Option.map_some, Option.map_eq_some_iff,
    Option.bind_eq_some_iff, Option.some.injEq] at converted
  obtain ⟨_, ⟨_, ⟨_, ⟨shownPaths, pathsEq, _, ⟨_, ⟨_, ⟨shownSchemas, schemasEq, rfl⟩, rfl⟩, rfl⟩,
    rfl⟩, rfl⟩, rfl⟩, rfl⟩ := converted
  exact ⟨shownPaths, shownSchemas, pathsEq, schemasEq, rfl⟩

/-- Operations under texts are a record of mappings. -/
theorem operationsValue_underTexts (named : Entries String Mapping) :
    operationsValue (Value.underTexts named) = record (Entries.mapValues record named) := by
  rw [operationsValue, record, Value.underTexts, Entries.mapValues, Entries.mapValues,
    List.map_map, List.map_map]
  rfl

/-- Paths under texts are a record of what stands under them. -/
theorem pathsValue_underTexts (named : Entries String (Entries Value Mapping)) :
    pathsValue (Value.underTexts named) = record (Entries.mapValues operationsValue named) := by
  rw [pathsValue, record, Value.underTexts, Entries.mapValues, Entries.mapValues, List.map_map,
    List.map_map]
  rfl

/-- The operations of a path are shown verb by verb, in the order in which verbs are first declared
on it, and each as it is last described. -/
theorem shown_path (texts : ∀ e ∈ r.endpoints, e.InTexts) {path : String} (given : path ≠ "")
    {paths : Entries Value (Entries Value Mapping)} (entered : r.paths = .ok paths) {v : Value}
    (converted : (operationsValue (operationsAt paths (.str path))).withTextKeys? = some v) :
    ∃ operations, v = record operations ∧
      operations.keys = (verbsAt r.endpoints path).eraseDups ∧
      ∀ verb ∈ operations.keys, ∃ e operation w,
        (r.declaring (.str path) verb).getLast? = some e ∧
        e.describe r.has = .ok operation ∧ operations.get? verb = some w ∧
        ShownAs operation w ∧ e.ShownIn r.has w := by
  rcases (entered_nil.run texts entered).operations path given with ⟨named, namedEq, keys⟩
  rw [namedEq, operationsValue_underTexts] at converted
  have distinct : named.keys.Nodup := keys ▸ Entries.nodup_eraseDups _
  rcases shown_mappings distinct converted with ⟨operations, rfl, keysShown, found⟩
  refine ⟨operations, rfl, keysShown.trans keys, ?_⟩
  intro verb listed
  rw [keysShown] at listed
  obtain ⟨operation, standing⟩ := Option.isSome_iff_exists.mp (Entries.isSome_get?_iff.mpr listed)
  have sought : operation? paths (.str path) verb = some operation := by
    rw [operation?, namedEq, Value.getBy?_underTexts, standing]
  rcases operation?_paths texts given entered sought with ⟨e, last, described⟩
  rcases found verb operation standing with ⟨w, foundHere, shown⟩
  exact ⟨e, operation, w, last, described, foundHere, shown,
    Endpoint.shownIn_of_describe described shown⟩

/-- The schema that is entered under a name is that of the last component of the name. -/
theorem exists_last_of_schemas {schemas : Entries String Mapping}
    (entered : r.schemas = .ok schemas) :
    schemas.keys = r.names.eraseDups ∧
      ∀ name schema, schemas.get? name = some schema → ∃ c,
        (r.named name).getLast? = some c ∧
        c.node.schema? r.has = .ok schema := by
  rw [Registry.schemas, enterComponents_eq] at entered
  split at entered
  · rename_i compilable
    cases entered
    refine ⟨?_, ?_⟩
    · change Entries.keys (Entries.ofList _) = _
      rw [Entries.keys_ofList, Entries.keys, List.map_map]
      rfl
    · intro name schema found
      change Entries.get? (Entries.ofList _) name = some schema at found
      rw [Entries.get?_ofList, Entries.get?, ← List.map_reverse, List.find?_map,
        Option.map_map, Option.map_eq_some_iff] at found
      rcases found with ⟨c, last, rfl⟩
      have listed : c ∈ r.components := List.mem_reverse.mp (List.mem_of_find?_eq_some last)
      refine ⟨c, ?_, Node.schema?_eq_ok_iff.mpr ⟨List.all_eq_true.mp compilable c listed, rfl⟩⟩
      rw [named, ← List.head?_reverse, ← List.filter_reverse, List.head?_filter]
      exact last
  · cases entered

/-- The schemas of components are shown name by name, in the order in which names are first
declared, and each as it is last declared. -/
theorem shown_schemas {schemas : Entries String Mapping} (entered : r.schemas = .ok schemas)
    {v : Value} (converted : (schemasValue schemas).withTextKeys? = some v) :
    ∃ shown, v = record shown ∧ shown.keys = r.names.eraseDups ∧
      ∀ name ∈ shown.keys, ∃ c schema w,
        (r.named name).getLast? = some c ∧
        c.node.schema? r.has = .ok schema ∧ shown.get? name = some w ∧ ShownAs schema w := by
  rcases exists_last_of_schemas entered with ⟨keys, last⟩
  have distinct : schemas.keys.Nodup := keys ▸ Entries.nodup_eraseDups _
  rcases shown_mappings distinct converted with ⟨shown, rfl, keysShown, found⟩
  refine ⟨shown, rfl, keysShown.trans keys, ?_⟩
  intro name listed
  rw [keysShown] at listed
  obtain ⟨schema, standing⟩ := Option.isSome_iff_exists.mp (Entries.isSome_get?_iff.mpr listed)
  rcases last name schema standing with ⟨c, lastEq, schemaEq⟩
  rcases found name schema standing with ⟨w, foundHere, shown⟩
  exact ⟨c, schema, w, lastEq, schemaEq, foundHere, shown⟩

/-- In a registry that is built by declaring, operations are texts, and paths are if they were set
to texts. -/
theorem Built.inTexts (built : r.Built)
    (paths : ∀ e ∈ r.endpoints, e.path = .null ∨ ∃ path, e.path = .str path) :
    ∀ e ∈ r.endpoints, e.InTexts := by
  intro e member
  rcases built.operations e member with ⟨verbs, operations⟩
  refine ⟨paths e member, ?_⟩
  rw [Endpoint.verbs_eq operations, operations]

/-- Declaring books twice, and an endpoint for them before and after that for shelves. -/
def libraryCalls : List Call :=
  [.component (.str "Book") (.leaf []), .component (.str "Book") (.leaf [("type", .str "object")]),
    listingCall "New" [.addOperations [.str "POST"]],
    .endpoint [.setPath (.str "/shelves"), .addOperations [.str "get", .str "POST"],
      .addResponse (.str "created") (.leaf [])],
    listingCall "Old" []]

/-- The registry of a library. -/
def library : Registry :=
  ⟨[⟨"Book", .mk Facets.blank []⟩, ⟨"Book", .mk { Facets.blank with type := .named "object" } []⟩],
    [{ listing "New" [] with operations := .list [.str "get", .str "post"] }, shelves,
      listing "Old" []]⟩

theorem built_library : library.Built :=
  Built.of_calls libraryCalls (by simp [libraryCalls, listingCall, Call.declares])
    (by decide +kernel)

theorem paths_library :
    ∀ e ∈ library.endpoints, e.path = .null ∨ ∃ path, e.path = .str path := by
  simp [library, listing, shelves]

theorem exists_compile_library :
    ∃ document, (library.compile .standard false).result = .ok document := by
  have clean : Attempt.failure? (library.compile .standard false).result = none := by
    decide +kernel
  exact Attempt.failure?_eq_none_iff.mp clean

end Registry

end ApiContract
