import ApiContract.Proofs.Document.Assembly
import ApiContract.Proofs.Lint.Report
import ApiContract.Proofs.Registry.Typed
import ApiContract.Proofs.Value.Spelling

/-!
# Why operations cannot be compiled

Where every union member can be displayed, an endpoint is described unless a
response key names no status, and the first such key says why not.  Compiling
the operations of a registry comes to the same: it fails with the first key
that names no status, among the keys of the endpoints that are compiled at all.
-/

namespace ApiContract

namespace Endpoint

variable (registered : String → Bool) {e : Endpoint}

/-- The response keys of an endpoint, first to last. -/
def statusKeys (e : Endpoint) : List Value :=
  match e.responses with
  | .declared responses => responses.map (·.1)
  | .assigned _ => []

/-- In a well formed endpoint every response key names a status. -/
theorem WellFormed.resolves {known : String → Prop} (formed : e.WellFormed known) :
    ∀ key ∈ e.statusKeys, ∃ code, Status.resolve key = .ok code := by
  rcases formed.responses with ⟨responses, declared, answered⟩
  rw [statusKeys, declared, List.forall_mem_map]
  exact fun response listed => (answered response listed).2.1

/-- An endpoint holds declarations only, and all nodes that are declared in it are of some kind. -/
structure AllNodes (motive : Node → Prop) (e : Endpoint) : Prop where
  parameters : ∃ parameters, e.parameters = .declared parameters ∧
    ∀ p ∈ parameters, motive p.node
  body : ∀ body, e.body = some body → ∃ slot, body = .declared slot ∧ motive slot.content
  responses : ∃ responses, e.responses = .declared responses ∧
    ∀ response ∈ responses, ∃ n, response.2 = .declared n ∧ motive n

theorem AllNodes.imp {motive other : Node → Prop} (all : e.AllNodes motive)
    (implies : ∀ n, motive n → other n) : e.AllNodes other := by
  constructor
  · obtain ⟨parameters, declared, nodes⟩ := all.parameters
    exact ⟨parameters, declared, fun p listed => implies _ (nodes p listed)⟩
  · intro body standing
    obtain ⟨slot, declared, node⟩ := all.body body standing
    exact ⟨slot, declared, implies _ node⟩
  · obtain ⟨responses, declared, nodes⟩ := all.responses
    refine ⟨responses, declared, fun response listed => ?_⟩
    obtain ⟨n, equal, node⟩ := nodes response listed
    exact ⟨n, equal, implies n node⟩

/-- All union members that are shown of the nodes of an endpoint can be displayed. -/
abbrev Compilable (e : Endpoint) : Prop :=
  e.AllNodes (·.compilable = true)

theorem contentSchema?_of_compilable {n : Node} (compilable : n.compilable = true) :
    n.contentSchema? registered =
      .ok ((n.schema registered).filter (·.1 != "description")) := by
  simp [Node.contentSchema?, Node.schema?, compilable, Except.map]

theorem failure?_describeParameters {e : Endpoint} (compilable : e.Compilable) :
    Attempt.failure? (e.describeParameters registered) = none := by
  obtain ⟨parameters, declared, nodes⟩ := compilable.parameters
  have described : Attempt.failure? (parameters.mapM (Parameter.describe registered)) = none := by
    rw [Attempt.failure?_mapM, List.findSome?_eq_none_iff]
    intro p listed
    simp [Parameter.describe, contentSchema?_of_compilable registered (nodes p listed), Except.map]
  obtain ⟨list, listEq⟩ := Attempt.failure?_eq_none_iff.mp described
  simp [describeParameters, declared, listEq, pure, Except.pure]

/-- Responses with nodes that can be compiled are described unless a key names no status. -/
theorem failure?_describeAll {responses : List (Value × Standing Response)}
    (nodes : ∀ response ∈ responses, ∃ n, response.2 = .declared n ∧ n.compilable = true)
    (before : Entries Int Mapping) :
    Attempt.failure? (describeAll registered before responses) =
      (responses.map (·.1)).findSome? fun key => Attempt.failure? (Status.resolve key) := by
  induction responses generalizing before with
  | nil => rfl
  | cons first rest ih =>
      rcases first with ⟨key, response⟩
      obtain ⟨⟨n, declared, compilable⟩, later⟩ := List.forall_mem_cons.mp nodes
      have standing : response = .declared n := declared
      rw [describeAll, List.map_cons, List.findSome?_cons]
      cases resolved : Status.resolve key with
      | error f => rfl
      | ok code =>
          simp [standing, Response.describe, contentSchema?_of_compilable registered compilable,
            ih later, Except.map]

theorem failure?_describeBody {e : Endpoint} (compilable : e.Compilable) :
    Attempt.failure? (e.body.mapM (describeBody registered)) = none := by
  cases standing : e.body with
  | none => rfl
  | some body =>
      obtain ⟨slot, rfl, content⟩ := compilable.body body standing
      simp [describeBody, RequestBody.describe, contentSchema?_of_compilable registered content,
        Except.map, Functor.map]

/-- Describing an endpoint fails with the first of its response keys that names no status. -/
theorem failure?_describe {e : Endpoint} (compilable : e.Compilable) :
    Attempt.failure? (e.describe registered) =
      e.statusKeys.findSome? fun key => Attempt.failure? (Status.resolve key) := by
  obtain ⟨responses, declared, nodes⟩ := compilable.responses
  obtain ⟨parameters, parametersEq⟩ :=
    Attempt.failure?_eq_none_iff.mp (failure?_describeParameters registered compilable)
  obtain ⟨body, bodyEq⟩ :=
    Attempt.failure?_eq_none_iff.mp (failure?_describeBody registered compilable)
  rw [describe, parametersEq, Attempt.ok_do, describeResponses, declared, Held.get_declared,
    bodyEq, statusKeys, declared, Attempt.ok_bind, ← failure?_describeAll registered nodes []]
  cases describeAll registered [] responses <;> rfl

/-- Entering operations fails as describing the endpoint does, unless there are none. -/
theorem failure?_enterOperations {verbs : List Value} (keys : ∀ verb ∈ verbs, verb.isKey = true)
    (before : Entries Value Mapping) :
    Attempt.failure? (e.enterOperations registered before verbs) =
      if verbs.isEmpty then none else Attempt.failure? (e.describe registered) := by
  induction verbs generalizing before with
  | nil => rfl
  | cons verb rest ih =>
      obtain ⟨key, others⟩ := List.forall_mem_cons.mp keys
      rw [enterOperations]
      cases described : e.describe registered with
      | error f => rfl
      | ok operation =>
          rw [Attempt.ok_do, if_pos key, ih others]
          simp [described]

end Endpoint

namespace Registry

/-- An endpoint without a path is passed over. -/
theorem enterEndpoints_cons_of_not_isGiven (registered : String → Bool) {e : Endpoint}
    (given : e.path.isGiven = false) (before : Entries Value (Entries Value Mapping))
    (rest : List Endpoint) :
    enterEndpoints registered before (e :: rest) = enterEndpoints registered before rest := by
  rw [enterEndpoints, given]
  rfl

/-- An endpoint with a path is entered under it with all of its verbs. -/
theorem enterEndpoints_cons_of_isGiven (registered : String → Bool) {e : Endpoint}
    (typed : e.Typed) (given : e.path.isGiven = true) :
    ∃ verbs, e.operations = .list verbs ∧ (∀ verb ∈ verbs, verb.isText = true) ∧
      ∀ before rest, enterEndpoints registered before (e :: rest) =
        (do
          let operations ← e.enterOperations registered (operationsAt before e.path) verbs
          enterEndpoints registered (Value.putKey before e.path operations) rest) := by
  rcases typed.operations with ⟨verbs, operations, texts⟩
  refine ⟨verbs, operations, texts, ?_⟩
  intro before rest
  have key : e.path.isKey = true := Value.isKey_of_isText (typed.isText_path given)
  have items : e.operations.items? = some verbs := by
    rw [operations, Value.items?]
  rw [enterEndpoints]
  simp only [given, key, items, Bool.not_true, Bool.false_eq_true, if_false]

/-- Entering endpoints fails as describing the first of them does that cannot be described, among
those that have a path and an operation. -/
theorem failure?_enterEndpoints (registered : String → Bool) {endpoints : List Endpoint}
    (typed : ∀ e ∈ endpoints, e.Typed) (before : Entries Value (Entries Value Mapping)) :
    Attempt.failure? (enterEndpoints registered before endpoints) =
      endpoints.findSome? fun e =>
        if e.path.isGiven && e.operations.isGiven then Attempt.failure? (e.describe registered)
        else none := by
  induction endpoints generalizing before with
  | nil => rfl
  | cons e rest ih =>
      rcases List.forall_mem_cons.mp typed with ⟨first, later⟩
      rw [List.findSome?_cons]
      cases given : e.path.isGiven with
      | false =>
          rw [enterEndpoints_cons_of_not_isGiven registered given, ih later]
          rfl
      | true =>
          rcases enterEndpoints_cons_of_isGiven registered first given with
            ⟨verbs, operations, texts, entered⟩
          have keys : ∀ verb ∈ verbs, verb.isKey = true := fun verb member =>
            Value.isKey_of_isText (texts verb member)
          have operationsGiven : e.operations.isGiven = !verbs.isEmpty := by
            rw [operations, Value.isGiven]
          rw [entered, Attempt.failure?_do fun result _ => ih later _,
            e.failure?_enterOperations registered keys, operationsGiven, Bool.true_and]
          cases verbs.isEmpty with
          | true => rfl
          | false => cases Attempt.failure? (e.describe registered) <;> rfl

/-- What holds of all nodes that are declared in a registry holds of those in its endpoints, which
hold nothing else if the registry is built by declaring. -/
theorem Built.allNodes {r : Registry} {motive : Node → Prop} (built : r.Built)
    (nodes : ∀ n, r.Declares n → motive n) : ∀ e ∈ r.endpoints, e.AllNodes motive := by
  intro e member
  have regular := built.regular.endpoints e member
  constructor
  · obtain ⟨parameters, declared, -⟩ := regular.parameters
    exact ⟨parameters, declared, fun p listed => nodes _ (.parameter member declared listed)⟩
  · intro body standing
    obtain ⟨slot, rfl, -⟩ := regular.body body standing
    exact ⟨slot, rfl, nodes _ (.body member standing)⟩
  · obtain ⟨responses, declared, standing⟩ := regular.responses
    refine ⟨responses, declared, ?_⟩
    rintro ⟨key, response⟩ listed
    obtain ⟨n, rfl, -⟩ := standing _ listed
    exact ⟨n, rfl, nodes n (.response member declared listed)⟩

end Registry

end ApiContract
