import ApiContract.Proofs.Document.Failure

/-!
# The operation of a path and a verb

Requests on a path go to the first endpoint that declares the verb on it; the
document shows the last one.  So there is an endpoint exactly if there is an
operation, and the operation is that of the endpoint if no other declares the
verb on the path.
-/

namespace ApiContract

namespace Endpoint

/-- Whether an endpoint declares a verb on a path. -/
def declares (e : Endpoint) (path : Value) (verb : String) : Bool :=
  match e.answers path verb with
  | .ok found => found
  | .error _ => false

theorem answers_of_list {e : Endpoint} {verbs : List Value} (operations : e.operations = .list verbs)
    (path : Value) (verb : String) : e.answers path verb = .ok (e.declares path verb) := by
  rw [declares, answers, operations, Value.holds?]
  cases e.path.same path <;> rfl

theorem Typed.answers_eq {e : Endpoint} (typed : e.Typed) (path : Value) (verb : String) :
    e.answers path verb = .ok (e.declares path verb) := by
  obtain ⟨verbs, operations, -⟩ := typed.operations
  exact answers_of_list operations path verb

/-- An endpoint declares a verb on a path exactly if both are spelled as they are in it. -/
theorem declares_eq {e : Endpoint} {path : Value} {verb : String} {verbs : List Value}
    (operations : e.operations = .list verbs) :
    e.declares path verb = (e.path.same path && verbs.any (Value.same (.str verb))) := by
  rw [declares, answers, operations, Value.holds?]
  cases e.path.same path <;> rfl

/-- Entering the operations of an endpoint stores its description under its verbs. -/
theorem getBy?_enterOperations {registered : String → Bool} {e : Endpoint} {verbs : List Value}
    (texts : ∀ v ∈ verbs, v.isText = true) {before after : Entries Value Mapping}
    (entered : e.enterOperations registered before verbs = .ok after) (verb : String) :
    (Entries.getBy? Value.sameKey after (.str verb)).map .ok =
      if verbs.any (Value.same (.str verb)) then some (e.describe registered)
      else (Entries.getBy? Value.sameKey before (.str verb)).map .ok := by
  induction verbs generalizing before with
  | nil =>
      cases entered
      rfl
  | cons v rest ih =>
      obtain ⟨text, others⟩ := List.forall_mem_cons.mp texts
      rw [enterOperations, Attempt.do_eq_ok_iff] at entered
      rcases entered with ⟨operation, described, entered⟩
      rw [if_pos (Value.isKey_of_isText text)] at entered
      have sought : (Value.str verb).isText = true := rfl
      rw [ih others entered, List.any_cons, Value.getBy?_putKey text sought,
        Value.sameKey_eq_same text sought]
      cases rest.any (Value.same (.str verb)) <;> cases Value.same (.str verb) v <;>
        simp [described]

end Endpoint

namespace Registry

variable {registered : String → Bool} {endpoints : List Endpoint} {path : Value}

/-- The endpoints that declare a verb on a path, first to last. -/
def declaring (r : Registry) (path : Value) (verb : String) : List Endpoint :=
  r.endpoints.filter (·.declares path verb)

/-- The operation that is entered for a verb under a path. -/
def operation? (paths : Entries Value (Entries Value Mapping)) (path : Value) (verb : String) :
    Option Mapping :=
  Entries.getBy? Value.sameKey (operationsAt paths path) (.str verb)

/-- Paths that are spelled alike have the same operations. -/
theorem operationsAt_congr {p : Value} (text : p.isText = true) (other : path.isText = true)
    (same : p.spelling? = path.spelling?) (paths : Entries Value (Entries Value Mapping)) :
    operationsAt paths p = operationsAt paths path := by
  have alike : ∀ v : Value, v.sameKey p = v.sameKey path := by
    intro v
    rw [Bool.eq_iff_iff, Value.sameKey_iff_of_isText text, Value.sameKey_iff_of_isText other, same]
  simp only [operationsAt, alike]

/-- Storing the operations of a path changes what stands under texts that are spelled like it. -/
theorem operationsAt_putKey {p : Value} (text : p.isText = true) (sought : path.isText = true)
    (paths : Entries Value (Entries Value Mapping)) (operations : Entries Value Mapping) :
    operationsAt (Value.putKey paths p operations) path =
      if p.sameKey path then operations else operationsAt paths path := by
  have found := Value.getBy?_putKey text sought paths operations
  change (Entries.getBy? Value.sameKey _ path).getD [] = _
  rw [found]
  cases p.sameKey path <;> rfl

/-- Entering the operations of an endpoint changes the operation of a verb on a path exactly if
the endpoint declares it. -/
theorem operation?_putKey {e : Endpoint} {verbs : List Value} (text : e.path.isText = true)
    (operationsEq : e.operations = .list verbs) (texts : ∀ v ∈ verbs, v.isText = true)
    (sought : path.isText = true) {before : Entries Value (Entries Value Mapping)}
    {operations : Entries Value Mapping}
    (entered : e.enterOperations registered (operationsAt before e.path) verbs = .ok operations)
    (verb : String) :
    (operation? (Value.putKey before e.path operations) path verb).map .ok =
      if e.declares path verb then some (e.describe registered)
      else (operation? before path verb).map .ok := by
  have alike : e.path.same path = e.path.sameKey path := by
    rw [Bool.eq_iff_iff, Value.same_iff_of_isText sought, Value.sameKey_iff_of_isText sought]
  rw [operation?, operationsAt_putKey text sought, Endpoint.declares_eq operationsEq, alike]
  cases same : e.path.sameKey path with
  | false => rfl
  | true =>
      have spelled := (Value.sameKey_iff_of_isText sought).mp same
      have entries := Endpoint.getBy?_enterOperations texts entered verb
      rw [operationsAt_congr text sought spelled] at entries
      simpa [operation?] using entries

/-- After endpoints are entered, the operation of a verb on a path is that of the last endpoint
that declares it, or the one from before if none does. -/
theorem operation?_enterEndpoints (typed : ∀ e ∈ endpoints, e.Typed)
    (given : ∀ e ∈ endpoints, e.path.isGiven = true) (sought : path.isText = true)
    {before after : Entries Value (Entries Value Mapping)}
    (entered : enterEndpoints registered before endpoints = .ok after) (verb : String) :
    (operation? after path verb).map .ok =
      ((endpoints.filter (·.declares path verb)).getLast?.map (Endpoint.describe registered)).or
        ((operation? before path verb).map .ok) := by
  induction endpoints generalizing before with
  | nil =>
      cases entered
      rfl
  | cons e rest ih =>
      rcases List.forall_mem_cons.mp typed with ⟨first, later⟩
      rcases List.forall_mem_cons.mp given with ⟨pathGiven, laterGiven⟩
      rcases enterEndpoints_cons_of_isGiven registered first pathGiven with
        ⟨verbs, operations, texts, unfolded⟩
      rw [unfolded, Attempt.do_eq_ok_iff] at entered
      rcases entered with ⟨described, describedEq, entered⟩
      rw [ih later laterGiven entered,
        operation?_putKey (first.isText_path pathGiven) operations texts sought describedEq,
        List.filter_cons]
      cases e.declares _ verb with
      | false => simp
      | true =>
          simp [List.getLast?_cons]

/-- Looking for an endpoint finds the first that declares the verb on the path. -/
theorem findFrom_eq (typed : ∀ e ∈ endpoints, e.Typed) (path : Value) (verb : String)
    (index : Nat) :
    (findFrom path verb index endpoints).map (·.map (·.2)) =
      .ok (endpoints.filter (·.declares path verb)).head? := by
  induction endpoints generalizing index with
  | nil => rfl
  | cons e rest ih =>
      obtain ⟨first, later⟩ := List.forall_mem_cons.mp typed
      rw [findFrom, first.answers_eq, Attempt.ok_bind, List.filter_cons]
      cases e.declares path verb with
      | false => simpa using ih later (index + 1)
      | true => rfl

/-- The operations of a registry without malformed declarations are compiled if every union member
can be displayed. -/
theorem Built.exists_paths {r : Registry} (built : r.Built) (typed : ∀ e ∈ r.endpoints, e.Typed)
    (clean : r.problems = .ok []) (nodes : ∀ n, r.Declares n → n.compilable = true) :
    ∃ paths, r.paths = .ok paths := by
  obtain ⟨-, -, formed⟩ := problems_eq_ok_nil_iff.mp clean
  rw [← Attempt.failure?_eq_none_iff, paths, failure?_enterEndpoints r.has typed [],
    List.findSome?_eq_none_iff]
  intro e member
  have resolved : Attempt.failure? (e.describe r.has) = none := by
    rw [Endpoint.failure?_describe r.has (built.allNodes nodes e member),
      List.findSome?_eq_none_iff]
    intro key listed
    exact Attempt.failure?_eq_none_iff.mpr ((formed e member).resolves key listed)
  simp [resolved]

/-- In a registry without malformed declarations the endpoint found for a path and a method is the
first that declares the method on the path, and the operation documented is that of the last.  So
there is an endpoint exactly if there is an operation, and where one endpoint alone declares the
method on the path, the operation describes the endpoint. -/
theorem find?_iff_documented {r : Registry} (built : r.Built)
    (texts : ∀ e ∈ r.endpoints, e.path = .null ∨ e.path.isText = true)
    (clean : r.problems = .ok []) {path : Value} (text : path.isText = true) (method : String) :
    (r.find? path method).map (·.map (·.2)) =
        .ok (r.declaring path (Text.lower method)).head? ∧
      ((∀ n, r.Declares n → n.compilable = true) → ∃ paths, r.paths = .ok paths) ∧
      ∀ paths, r.paths = .ok paths →
        ((operation? paths path (Text.lower method)).map .ok =
            (r.declaring path (Text.lower method)).getLast?.map (Endpoint.describe r.has)) ∧
          ((∃ found, r.find? path method = .ok (some found)) ↔
            ∃ operation, operation? paths path (Text.lower method) = some operation) ∧
          ∀ e, r.declaring path (Text.lower method) = [e] → ∃ index operation,
            r.find? path method = .ok (some (index, e)) ∧ e.describe r.has = .ok operation ∧
              operation? paths path (Text.lower method) = some operation := by
  have typed := built.typed texts
  obtain ⟨-, -, formed⟩ := problems_eq_ok_nil_iff.mp clean
  have found : (r.find? path method).map (·.map (·.2)) =
      .ok (r.declaring path (Text.lower method)).head? := findFrom_eq typed path _ 0
  refine ⟨found, built.exists_paths typed clean, ?_⟩
  intro paths entered
  have documented : (operation? paths path (Text.lower method)).map .ok =
      (r.declaring path (Text.lower method)).getLast?.map (Endpoint.describe r.has) := by
    have last := operation?_enterEndpoints typed (fun e member => (formed e member).path) text
      entered (Text.lower method)
    simpa [operation?, operationsAt, Entries.getBy?, declaring] using last
  obtain ⟨answer, answerEq, shown⟩ := Attempt.map_eq_ok_iff.mp found
  refine ⟨documented, ?_, ?_⟩
  · rw [answerEq]
    generalize r.declaring path (Text.lower method) = declaring at shown documented
    generalize operation? paths path (Text.lower method) = operation at documented
    cases declaring with
    | nil =>
        have unanswered : answer = none := by simpa using shown
        have undocumented : operation = none := by simpa using documented
        simp [unanswered, undocumented]
    | cons first rest =>
        rw [List.getLast?_cons, Option.map_some] at documented
        obtain ⟨named, rfl, -⟩ := Option.map_eq_some_iff.mp shown
        obtain ⟨operation, rfl, -⟩ := Option.map_eq_some_iff.mp documented
        exact iff_of_true ⟨named, rfl⟩ ⟨operation, rfl⟩
  · intro e alone
    rw [alone, List.getLast?_singleton, Option.map_some] at documented
    rw [alone, List.head?_cons] at shown
    obtain ⟨⟨index, _⟩, rfl, rfl⟩ := Option.map_eq_some_iff.mp shown
    obtain ⟨operation, operationEq, described⟩ := Option.map_eq_some_iff.mp documented
    exact ⟨index, operation, answerEq, described.symm, operationEq⟩

/-- Declaring an endpoint for books, and one for shelves. -/
def shelfCalls : List Call :=
  [.endpoint [.setPath (.str "/books"), .addOperations [.str "GET"],
      .addResponse (.str "ok") (.leaf [])],
    .endpoint [.setPath (.str "/shelves"), .addOperations [.str "get", .str "POST"],
      .addResponse (.str "created") (.leaf [])]]

/-- The endpoint for shelves. -/
def shelves : Endpoint :=
  ⟨.str "/shelves", .str "", .list [.str "get", .str "post"], .declared [], none,
    .declared [(.str "created", .declared (.mk Facets.blank []))]⟩

/-- The registry of books and shelves. -/
def shelf : Registry :=
  ⟨[], [⟨.str "/books", .str "", .list [.str "get"], .declared [], none,
    .declared [(.str "ok", .declared (.mk Facets.blank []))]⟩, shelves]⟩

/-- What is posted to the shelves goes to the endpoint that is documented for it. -/
theorem find?_shelves :
    ∃ paths index operation, shelf.paths = .ok paths ∧
      shelf.find? (.str "/shelves") "Post" = .ok (some (index, shelves)) ∧
      shelves.describe shelf.has = .ok operation ∧
      operation? paths (.str "/shelves") "post" = some operation := by
  have built : shelf.Built :=
    Built.of_calls shelfCalls (by simp [shelfCalls, Call.declares]) (by decide +kernel)
  have clean : shelf.problems = .ok [] := by decide +kernel
  have bare : ∀ e ∈ shelf.endpoints, e.parameters = .declared [] ∧ e.body = none ∧
      ∀ responses, e.responses = .declared responses →
        ∀ response ∈ responses, response.2 = .declared (.mk Facets.blank []) := by
    simp [shelf, shelves]
  have compilable : ∀ n, shelf.Declares n → n.compilable = true := by
    intro n declared
    cases declared with
    | component member => simp [shelf] at member
    | parameter member declared listed =>
        cases declared.symm.trans (bare _ member).1
        simp at listed
    | body member declared => cases declared.symm.trans (bare _ member).2.1
    | response member declared listed =>
        cases (bare _ member).2.2 _ declared _ listed
        rfl
  have text : (Value.str "/shelves").isText = true := rfl
  have alone : shelf.declaring (.str "/shelves") (Text.lower "Post") = [shelves] := by
    decide +kernel
  have small : Text.lower "Post" = "post" := by decide +kernel
  obtain ⟨-, exist, documented⟩ :=
    find?_iff_documented built (by simp [shelf, shelves, Value.isText]) clean text "Post"
  obtain ⟨paths, pathsEq⟩ := exist compilable
  obtain ⟨index, operation, found, described, shown⟩ := (documented paths pathsEq).2.2 shelves alone
  exact ⟨paths, index, operation, pathsEq, found, described, small ▸ shown⟩

/-- An endpoint that lists something. -/
def listing (description : String) (parameters : List Parameter) : Endpoint :=
  ⟨.str "/books", .str description, .list [.str "get"], .declared parameters, none, .declared []⟩

/-- Two endpoints for one operation. -/
def twice : Registry :=
  ⟨[], [listing "New" [], listing "Old" []]⟩

/-- Declaring an endpoint on a path, with a description and parameters. -/
def listingCall (description : String) (parameters : List Edit) : Call :=
  .endpoint ([.setPath (.str "/books"), .setDescription (.str description),
    .addOperations [.str "get"]] ++ parameters)

theorem built_twice : twice.Built :=
  Built.of_calls [listingCall "New" [], listingCall "Old" []]
    (by simp [listingCall, Call.declares]) (by decide +kernel)

/-- A page, given by its number or by a number that cannot be displayed. -/
def page : Parameter :=
  ⟨"page", "query", true,
    .mk { Facets.blank with type := .union [.int Number.digitCeiling] } []⟩

/-- One endpoint with a parameter that cannot be shown. -/
def paged : Registry :=
  ⟨[], [listing "New" [page]]⟩

/-- Declaring a page that cannot be displayed. -/
def addPage : Edit :=
  .addParameter (.str "page")
    (.leaf [("type", .list [.int Number.digitCeiling]), ("required", .bool true)])

theorem built_paged : paged.Built :=
  Built.of_calls [listingCall "New" [addPage]] (by simp [listingCall, Call.declares])
    (by decide +kernel)

/-- Two endpoints may be declared for one operation: then the first is found, and the second is
documented.  And an endpoint may be found where no operation is documented at all, since something
in it cannot be shown. -/
theorem find?_ne_documented :
    (twice.Built ∧ twice.problems = .ok [] ∧ ∃ paths operation, twice.paths = .ok paths ∧
      twice.find? (.str "/books") "get" = .ok (some (0, listing "New" [])) ∧
      operation? paths (.str "/books") "get" = some operation ∧
      (listing "New" []).describe twice.has ≠ .ok operation) ∧
    paged.Built ∧ paged.problems = .ok [] ∧
      paged.find? (.str "/books") "get" = .ok (some (0, listing "New" [page])) ∧
      paged.paths = .error (.badValue .tooManyDigits) := by
  have clean : twice.problems = .ok [] := by decide +kernel
  have first : twice.find? (.str "/books") "get" = .ok (some (0, listing "New" [])) := by
    decide +kernel
  have pagedClean : paged.problems = .ok [] := by decide +kernel
  have pagedFound : paged.find? (.str "/books") "get" = .ok (some (0, listing "New" [page])) := by
    decide +kernel
  have pagedFails : Attempt.failure? paged.paths = some (.badValue .tooManyDigits) := by
    decide +kernel
  refine ⟨⟨built_twice, clean, _, _, rfl, first, rfl, ?_⟩, built_paged, pagedClean, pagedFound,
    Attempt.failure?_eq_some_iff.mp pagedFails⟩
  decide +kernel

end Registry

end ApiContract
