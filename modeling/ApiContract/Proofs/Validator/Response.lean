import ApiContract.Document.Build
import ApiContract.Proofs.Attempt
import ApiContract.Proofs.Entries
import ApiContract.Proofs.Validator.Endpoint

/-!
# Validators of responses and documented responses

Several response keys may name one code.  A document shows the last response
for a code.  The validator for a code is that of the last response with
properties, since a response without properties has no validator that could
take the place of an earlier one.  So the two agree wherever the documented
response has properties, and where it has none the validator may still be that
of a response which the document does not show.
-/

namespace ApiContract.Endpoint

/-- The response under a key, if the key is for a code. -/
def under? (code : Int) (response : Value × Standing Response) : Option Response :=
  match Status.resolve response.1 with
  | .ok c => if c = code then (response.2.node id).toOption else none
  | .error _ => none

/-- The responses of an endpoint for a code, first to last. -/
def responsesUnder (e : Endpoint) (code : Int) : List Response :=
  match e.responses with
  | .declared responses => responses.filterMap (under? code)
  | .assigned _ => []

/-- The response of an endpoint that is documented for a code. -/
def documented? (e : Endpoint) (code : Int) : Option Response :=
  (e.responsesUnder code).getLast?

theorem under?_of_resolve {code c : Int} {key : Value} {response : Standing Response}
    {n : Response} (resolved : Status.resolve key = .ok c) (node : response.node id = .ok n) :
    under? code (key, response) = if c = code then some n else none := by
  simp [under?, resolved, node, Except.toOption]

theorem node_of_under? {code : Int} {key : Value} {response : Standing Response} {n m : Response}
    (node : response.node id = .ok n) (answer : under? code (key, response) = some m) : n = m := by
  rw [under?, node] at answer
  split at answer
  · split at answer
    · exact Option.some.inj answer
    · cases answer
  · cases answer

/-- The descriptions of responses are stored by code, so the last one for a code stands. -/
theorem get?_describeAll {registered : String → Bool} {code : Int}
    {responses : List (Value × Standing Response)} {before described : Entries Int Mapping}
    (entered : describeAll registered before responses = .ok described) :
    (described.get? code).map .ok =
      ((responses.filterMap (under? code)).getLast?.map (Response.describe registered)).or
        ((before.get? code).map .ok) := by
  induction responses generalizing before with
  | nil =>
      cases entered
      rfl
  | cons first rest ih =>
      rcases first with ⟨key, response⟩
      simp only [describeAll, Attempt.do_eq_ok_iff] at entered
      rcases entered with ⟨c, resolved, n, node, m, shown, entered⟩
      rw [ih entered, List.filterMap_cons, under?_of_resolve resolved node]
      by_cases same : c = code
      · subst same
        cases last : (rest.filterMap (under? c)).getLast? <;>
          simp [List.getLast?_cons, Entries.get?_put_self, last, shown]
      · simp [same, Entries.get?_put_of_ne _ _ (Ne.symm same)]

/-- The validators of responses are stored by code, so the last one for a code stands.  A
response without properties stores none. -/
theorem get?_enterValidators {code : Int} {responses : List (Value × Standing Response)}
    {before validators : Entries Int Validator}
    (entered : enterValidators before responses = .ok validators) :
    validators.get? code =
      ((responses.filterMap (under? code)).filterMap Validator.response?).getLast?.or
        (before.get? code) := by
  induction responses generalizing before with
  | nil =>
      cases entered
      rfl
  | cons first rest ih =>
      rcases first with ⟨key, response⟩
      rw [enterValidators, Attempt.do_eq_ok_iff] at entered
      rcases entered with ⟨n, node, entered⟩
      cases compiled : Validator.response? n with
      | none =>
          simp only [compiled] at entered
          rw [ih entered, List.filterMap_cons]
          cases answer : under? code (key, response) with
          | none => rfl
          | some m =>
              have same : n = m := node_of_under? node answer
              simp only [← same, List.filterMap_cons, compiled]
      | some v =>
          simp only [compiled, Attempt.do_eq_ok_iff] at entered
          rcases entered with ⟨w, ready, c, resolved, entered⟩
          rw [ih entered, List.filterMap_cons, under?_of_resolve resolved node]
          by_cases same : c = code
          · subst same
            simp [List.getLast?_cons, Entries.get?_put_self, compiled, Validator.eq_of_ready ready]
          · simp [same, Entries.get?_put_of_ne _ _ (Ne.symm same)]

/-- Where every key is for a code and all models can be named, the validators of responses are
compiled. -/
theorem exists_enterValidators {responses : List (Value × Standing Response)}
    (resolved : ∀ response ∈ responses, ∃ code, Status.resolve response.1 = .ok code)
    (named : ∀ response ∈ responses, ∃ n, response.2.node id = .ok n ∧
      Node.nullInNames n.properties = false)
    (before : Entries Int Validator) :
    ∃ validators, enterValidators before responses = .ok validators := by
  induction responses generalizing before with
  | nil => exact ⟨before, rfl⟩
  | cons first rest ih =>
      rcases first with ⟨key, response⟩
      obtain ⟨⟨c, code⟩, restResolved⟩ := List.forall_mem_cons.mp resolved
      obtain ⟨⟨n, node, nameable⟩, restNamed⟩ := List.forall_mem_cons.mp named
      have resolvedKey : Status.resolve key = .ok c := code
      rw [enterValidators, node, Attempt.ok_do]
      cases compiled : Validator.response? n with
      | none => exact ih restResolved restNamed before
      | some v =>
          obtain ⟨-, rfl⟩ := Validator.response?_eq_some_iff.mp compiled
          simp only [Validator.ready, nameable, resolvedKey, Attempt.ok_do]
          exact ih restResolved restNamed _

/-- The last of some responses that has properties compiles to the last of their validators. -/
theorem getLast?_validators {responses : List Response} {n : Response}
    (last : responses.getLast? = some n) (properties : n.properties ≠ []) :
    ∃ v, (responses.filterMap Validator.response?).getLast? = some v ∧
      Validator.response? n = some v := by
  have compiled := Validator.response?_eq_some_iff.mpr ⟨properties, rfl⟩
  rcases List.getLast?_eq_some_iff.mp last with ⟨earlier, rfl⟩
  refine ⟨_, ?_, compiled⟩
  rw [List.filterMap_append, List.filterMap_cons_some compiled, List.filterMap_nil,
    List.getLast?_concat]

/-- A response of which a number is declared. -/
def numbered : Response :=
  .mk { Facets.blank with type := .named "object" }
    [("number", ⟨true, .mk { Facets.blank with type := .named "number" } []⟩)]

/-- A response of which nothing is declared. -/
def bare : Response :=
  .mk Facets.blank []

/-- An endpoint that declares its success twice, at last with a number. -/
def counting : Endpoint :=
  { Endpoint.empty with
    responses := .declared [(.str "ok", .declared bare), (.int 404, .declared bare),
      (.str "0200", .declared numbered)] }

/-- An endpoint that declares its success twice, at first with a number. -/
def overridden : Endpoint :=
  { Endpoint.empty with
    responses := .declared [(.str "ok", .declared numbered), (.int 200, .declared bare)] }

/-- An endpoint that declares its success with an object for which a model cannot be named. -/
def unnamed : Endpoint :=
  { Endpoint.empty with
    responses := .declared
      [(.str "ok", .declared (.mk Facets.blank [("\x00", ⟨true, numbered⟩)]))] }

end ApiContract.Endpoint
