import ApiContract.Document.Build
import ApiContract.Proofs.Attempt
import ApiContract.Proofs.Entries

/-!
# How documents are put together

The sections of a document are filled entry by entry, from what is declared and
in that order.  A schema that stands among those of the components is the schema
of one of them, and an operation that stands under a path is the description of
an endpoint.
-/

namespace ApiContract

namespace Node

variable {registered : String → Bool}

/-- The schemas of properties are those of the nodes under their names. -/
theorem schemas_eq_mapValues (registered : String → Bool) (properties : List (String × Slot Node)) :
    schemas registered properties =
      Entries.mapValues (fun slot => slot.content.schema registered) properties := by
  induction properties with
  | nil => rfl
  | cons property rest ih =>
      rcases property with ⟨name, required, n⟩
      rw [schemas, ih]
      rfl

/-- Every schema among those of some properties is the schema of one of them. -/
theorem mem_schemas {properties : List (String × Slot Node)} {name : String} {m : Mapping}
    (member : (name, m) ∈ schemas registered properties) :
    ∃ slot, (name, slot) ∈ properties ∧ m = slot.content.schema registered := by
  rw [schemas_eq_mapValues] at member
  rcases List.mem_map.mp member with ⟨⟨other, slot⟩, listed, equal⟩
  cases equal
  exact ⟨slot, listed, rfl⟩

/-- A node has a schema if every union member in it can be displayed. -/
theorem schema?_eq_ok_iff {n : Node} {s : Mapping} :
    n.schema? registered = .ok s ↔ n.compilable = true ∧ n.schema registered = s := by
  by_cases compilable : n.compilable <;> simp [schema?, compilable]

end Node

namespace Endpoint

variable {registered : String → Bool}

/-- The descriptions of responses are stored one after the other, each under the code
of its key. -/
theorem describeAll_eq_ok_iff {described result : Entries Int Mapping}
    {responses : List (Value × Standing Response)} :
    describeAll registered described responses = .ok result ↔
      ∃ built, List.Forall₂ (fun response entry => Status.resolve response.1 = .ok entry.1 ∧
          ∃ n, response.2.node id = .ok n ∧ Response.describe registered n = .ok entry.2)
        responses built ∧ described.putAll built = result := by
  induction responses generalizing described with
  | nil => simp [describeAll]
  | cons response rest ih =>
      rcases response with ⟨key, response⟩
      simp only [describeAll, Attempt.do_eq_ok_iff, ih, List.forall₂_cons_left_iff]
      constructor
      · rintro ⟨code, codeEq, n, nEq, m, mEq, built, pairs, rfl⟩
        exact ⟨(code, m) :: built, ⟨(code, m), built, ⟨codeEq, n, nEq, mEq⟩, pairs, rfl⟩, rfl⟩
      · rintro ⟨_, ⟨⟨code, m⟩, built, ⟨codeEq, n, nEq, mEq⟩, pairs, rfl⟩, rfl⟩
        exact ⟨code, codeEq, n, nEq, m, mEq, built, pairs, rfl⟩

/-- The description of an endpoint lists those of its parameters and of its responses,
and that of its body if it has one. -/
theorem describe_eq_ok {e : Endpoint} {operation : Mapping}
    (described : e.describe registered = .ok operation) :
    ∃ parameters described responses entries body,
      e.parameters = .declared parameters ∧
      parameters.mapM (Parameter.describe registered) = .ok described ∧
      e.responses = .declared responses ∧
      describeAll registered [] responses = .ok entries ∧
      e.body.mapM (describeBody registered) = .ok body ∧
      operation = [("parameters", .list (described.map Value.record)),
          ("responses", .dict (entries.map fun r => (Value.int r.1, Value.record r.2)))] ++
        (if e.description.isGiven then [("description", e.description)] else []) ++
        (body.map fun b => ("requestBody", Value.record b)).toList := by
  simp only [describe, describeParameters, describeResponses, Attempt.do_eq_ok_iff,
    Attempt.bind_eq_ok_iff, Attempt.pure_eq_ok_iff, Held.get_eq_ok_iff] at described
  obtain ⟨_, ⟨parameters, parametersEq, list, listEq, rfl⟩, entries,
    ⟨responses, responsesEq, entriesEq⟩, body, bodyEq, rfl⟩ := described
  exact ⟨parameters, list, responses, entries, body, parametersEq, listEq, responsesEq,
    entriesEq, bodyEq, rfl⟩

/-- Entering the operations of an endpoint adds only its description. -/
theorem mem_enterOperations {e : Endpoint} {operations result : Entries Value Mapping}
    {verbs : List Value} (entered : e.enterOperations registered operations verbs = .ok result)
    {entry : Value × Mapping} (member : entry ∈ result) :
    entry ∈ operations ∨ e.describe registered = .ok entry.2 := by
  induction verbs generalizing operations with
  | nil =>
      simp only [enterOperations, Except.ok.injEq] at entered
      subst entered
      exact Or.inl member
  | cons verb rest ih =>
      rw [enterOperations, Attempt.do_eq_ok_iff] at entered
      rcases entered with ⟨operation, described, entered⟩
      split at entered
      · rcases ih entered with earlier | later
        · rcases Entries.mem_putBy earlier with before | stored
          · exact Or.inl before
          · exact Or.inr (stored ▸ described)
        · exact Or.inr later
      · cases entered

/-- Operations are entered under verbs. -/
theorem key_of_mem_enterOperations {e : Endpoint} {operations result : Entries Value Mapping}
    {verbs : List Value} (entered : e.enterOperations registered operations verbs = .ok result)
    {entry : Value × Mapping} (member : entry ∈ result) :
    entry.1 ∈ operations.keys ∨ entry.1 ∈ verbs := by
  induction verbs generalizing operations with
  | nil =>
      cases entered
      exact Or.inl (List.mem_map_of_mem member)
  | cons verb rest ih =>
      rw [enterOperations, Attempt.do_eq_ok_iff] at entered
      rcases entered with ⟨operation, -, entered⟩
      split at entered
      · rcases ih entered with earlier | later
        · obtain ⟨stored, storedMember, same⟩ := List.mem_map.mp earlier
          rw [← same]
          rcases Entries.key_of_mem_putBy storedMember with new | old
          · exact Or.inr (new ▸ List.mem_cons_self)
          · exact Or.inl old
        · exact Or.inr (List.mem_cons_of_mem verb later)
      · cases entered

end Endpoint

namespace Registry

variable {registered : String → Bool}

/-- What is entered under a path stands under one of the paths. -/
theorem mem_operationsAt {paths : Entries Value (Entries Value Mapping)} {path : Value}
    {entry : Value × Mapping} (member : entry ∈ operationsAt paths path) :
    ∃ before ∈ paths, entry ∈ before.2 := by
  rw [operationsAt] at member
  cases found : paths.find? (Value.sameKey ·.1 path) with
  | none => simp [found] at member
  | some before => exact ⟨before, List.mem_of_find?_eq_some found, by simpa [found] using member⟩

/-- Entering endpoints adds only descriptions of them. -/
theorem mem_enterEndpoints {paths result : Entries Value (Entries Value Mapping)}
    {endpoints : List Endpoint} (entered : enterEndpoints registered paths endpoints = .ok result)
    {path : Value × Entries Value Mapping} (pathMember : path ∈ result)
    {entry : Value × Mapping} (member : entry ∈ path.2) :
    (∃ before ∈ paths, entry ∈ before.2) ∨
      ∃ e ∈ endpoints, e.describe registered = .ok entry.2 := by
  induction endpoints generalizing paths with
  | nil =>
      simp only [enterEndpoints, Except.ok.injEq] at entered
      subst entered
      exact Or.inl ⟨path, pathMember, member⟩
  | cons e rest ih =>
      rw [enterEndpoints] at entered
      split at entered
      · exact (ih entered).imp_right fun ⟨d, later, described⟩ =>
          ⟨d, List.mem_cons_of_mem _ later, described⟩
      · split at entered
        · cases entered
        · split at entered
          · cases entered
          · rw [Attempt.do_eq_ok_iff] at entered
            rcases entered with ⟨operations, operationsEq, entered⟩
            rcases ih entered with ⟨before, beforeMember, inside⟩ | ⟨d, later, described⟩
            · rcases Entries.mem_putBy beforeMember with earlier | rfl
              · exact Or.inl ⟨before, earlier, inside⟩
              · rcases Endpoint.mem_enterOperations operationsEq inside with old | described
                · exact Or.inl (mem_operationsAt old)
                · exact Or.inr ⟨e, List.mem_cons_self, described⟩
            · exact Or.inr ⟨d, List.mem_cons_of_mem _ later, described⟩

/-- Endpoints are entered under their paths, and their operations under their verbs. -/
theorem key_of_mem_enterEndpoints {paths result : Entries Value (Entries Value Mapping)}
    {endpoints : List Endpoint} (entered : enterEndpoints registered paths endpoints = .ok result)
    {path : Value × Entries Value Mapping} (member : path ∈ result) :
    (path.1 ∈ paths.keys ∨ ∃ e ∈ endpoints, e.path.isGiven = true ∧ e.path = path.1) ∧
      ∀ entry ∈ path.2, (∃ before ∈ paths, entry.1 ∈ before.2.keys) ∨
        ∃ e ∈ endpoints, ∃ verbs, e.operations.items? = some verbs ∧ entry.1 ∈ verbs := by
  induction endpoints generalizing paths with
  | nil =>
      cases entered
      exact ⟨Or.inl (List.mem_map_of_mem member),
        fun entry inside => Or.inl ⟨path, member, List.mem_map_of_mem inside⟩⟩
  | cons e rest ih =>
      rw [enterEndpoints] at entered
      split at entered
      · obtain ⟨pathKey, verbKeys⟩ := ih entered
        exact ⟨pathKey.imp_right fun ⟨d, later, given⟩ => ⟨d, List.mem_cons_of_mem e later, given⟩,
          fun entry inside => (verbKeys entry inside).imp_right fun ⟨d, later, verb⟩ =>
            ⟨d, List.mem_cons_of_mem e later, verb⟩⟩
      rename_i given
      split at entered
      · cases entered
      split at entered
      · cases entered
      rename_i verbs items
      rw [Attempt.do_eq_ok_iff] at entered
      rcases entered with ⟨operations, operationsEq, entered⟩
      obtain ⟨pathKey, verbKeys⟩ := ih entered
      constructor
      · rcases pathKey with earlier | ⟨d, later, declared⟩
        · obtain ⟨stored, storedMember, same⟩ := List.mem_map.mp earlier
          rcases Entries.key_of_mem_putBy storedMember with new | old
          · exact Or.inr ⟨e, List.mem_cons_self, by simpa using given, new.symm.trans same⟩
          · exact Or.inl (same ▸ old)
        · exact Or.inr ⟨d, List.mem_cons_of_mem e later, declared⟩
      · intro entry inside
        rcases verbKeys entry inside with ⟨before, beforeMember, keyed⟩ | ⟨d, later, declared⟩
        · rcases Entries.mem_putBy beforeMember with earlier | rfl
          · exact Or.inl ⟨before, earlier, keyed⟩
          · obtain ⟨stored, storedMember, same⟩ := List.mem_map.mp keyed
            rw [← same]
            rcases Endpoint.key_of_mem_enterOperations operationsEq storedMember with old | verb
            · obtain ⟨operation, operationMember, key⟩ := List.mem_map.mp old
              obtain ⟨before, earlier, inside⟩ := mem_operationsAt operationMember
              exact Or.inl ⟨before, earlier, key ▸ List.mem_map_of_mem inside⟩
            · exact Or.inr ⟨e, List.mem_cons_self, verbs, items, verb⟩
        · exact Or.inr ⟨d, List.mem_cons_of_mem e later, declared⟩

/-- The schemas of components are stored one after the other, each under the name of
its component. -/
theorem enterComponents_eq_ok_iff {schemas result : Entries String Mapping}
    {components : List Component} :
    enterComponents registered schemas components = .ok result ↔
      ∃ built, List.Forall₂ (fun c entry => c.name = entry.1 ∧
          c.node.schema? registered = .ok entry.2) components built ∧
        schemas.putAll built = result := by
  induction components generalizing schemas with
  | nil => simp [enterComponents]
  | cons c rest ih =>
      simp only [enterComponents, Attempt.do_eq_ok_iff, ih, List.forall₂_cons_left_iff]
      constructor
      · rintro ⟨m, mEq, built, pairs, rfl⟩
        exact ⟨(c.name, m) :: built, ⟨(c.name, m), built, ⟨rfl, mEq⟩, pairs, rfl⟩, rfl⟩
      · rintro ⟨_, ⟨⟨name, m⟩, built, ⟨rfl, mEq⟩, pairs, rfl⟩, rfl⟩
        exact ⟨m, mEq, built, pairs, rfl⟩

/-- Where names differ, the schema of every component stands under its name, and no name
occurs twice. -/
theorem get?_enterComponents {result : Entries String Mapping} {components : List Component}
    (distinct : (components.map (·.name)).Nodup)
    (entered : enterComponents registered [] components = .ok result) {c : Component}
    (member : c ∈ components) :
    ∃ m, c.node.schema? registered = .ok m ∧ result.get? c.name = some m := by
  obtain ⟨built, pairs, rfl⟩ := enterComponents_eq_ok_iff.mp entered
  have keysEq : components.map (·.name) = Entries.keys built := by
    clear entered distinct member
    induction pairs with
    | nil => rfl
    | cons head _ ih => rw [List.map_cons, Entries.keys_cons, ih, head.1]
  rw [keysEq] at distinct
  obtain ⟨⟨name, m⟩, listed, rfl, mEq⟩ := Attempt.exists_of_mem_left pairs member
  refine ⟨m, mEq, ?_⟩
  change Entries.get? (Entries.ofList built) c.name = some m
  rw [Entries.ofList_eq_self distinct, Entries.get?_eq_some_iff distinct]
  exact listed

/-- No name occurs twice among the schemas of components. -/
theorem nodup_keys_enterComponents {result : Entries String Mapping}
    {components : List Component}
    (entered : enterComponents registered [] components = .ok result) : result.keys.Nodup := by
  obtain ⟨built, -, rfl⟩ := enterComponents_eq_ok_iff.mp entered
  exact Entries.nodup_keys_ofList built

/-- The sections of a document, before its keys become texts. -/
def sections (info : DocumentInfo) (paths : Entries Value (Entries Value Mapping))
    (schemas : Entries String Mapping) : Entries String Value :=
  [("openapi", .str formatVersion), ("info", Value.record info.toMapping),
    ("paths", pathsValue paths),
    ("components", Value.record [("schemas", schemasValue schemas)])]

/-- A document is made of its sections, if all of their keys have a text. -/
theorem document_eq_ok_iff {r : Registry} {info : DocumentInfo} {document : Value} :
    r.document info = .ok document ↔
      ∃ paths schemas, r.paths = .ok paths ∧ r.schemas = .ok schemas ∧
        (Value.record (sections info paths schemas)).withTextKeys? = some document := by
  simp only [Registry.document, Attempt.do_eq_ok_iff, ← exists_and_left]
  refine exists_congr fun paths => exists_congr fun schemas => ?_
  refine and_congr_right fun _ => and_congr_right fun _ => ?_
  rw [sections]
  split
  · rename_i found
    simp [found]
  · rename_i found
    simp [found, throw, throwThe, MonadExceptOf.throw]

/-- A compiled document is the document of the registry. -/
theorem document_of_compile {r : Registry} {info : DocumentInfo} {strict : Bool}
    {document : Value} (compiled : (r.compile info strict).result = .ok document) :
    r.document info = .ok document := by
  rw [compile] at compiled
  split at compiled
  · cases compiled
  · split at compiled
    · cases compiled
    · exact compiled

end Registry

end ApiContract
