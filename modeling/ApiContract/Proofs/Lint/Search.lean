import ApiContract.Proofs.Document.Failure
import ApiContract.Proofs.Status

/-!
# When the search for malformed declarations fails

A registry that is built by declaring is searched to the end unless a response key
stops the search: one that has no text, or one that fails otherwise than by naming
no status.  Of whole numbers and texts these are the keys that cannot be read, by
digits that are not decimal or by too many of them.
-/

namespace ApiContract

namespace Status

/-- Why a response key fails the search, if it does: an unknown key does not. -/
def refusal? (key : Value) : Option Failure :=
  match key.shown with
  | .error f => some f
  | .ok _ =>
    match resolve key with
    | .ok _ | .error (.unknownStatus _ _) => none
    | .error f => some f

/-- A key that can be read does not fail the search. -/
theorem refusal?_eq_none {key : Value} (readable : Readable key) : refusal? key = none := by
  rcases resolve_cases readable with ⟨text, shown, ⟨code, resolved, -⟩ | failed⟩
  · simp only [refusal?, shown, resolved]
  · simp only [refusal?, shown, failed, unknown]

/-- Of whole numbers and texts, those fail the search that cannot be read. -/
theorem refusal?_eq_none_iff {key : Value} (plain : (∃ n, key = .int n) ∨ key.isText = true) :
    refusal? key = none ↔ Readable key := by
  constructor
  · intro passed
    by_contra unreadable
    rcases resolve_of_not_readable plain unreadable with
      ⟨f, shown, -⟩ | ⟨text, f, shown, resolved, kind⟩
    · simp [refusal?, shown] at passed
    · rcases kind with rfl | rfl <;> simp [refusal?, shown, resolved] at passed
  · exact refusal?_eq_none

theorem unreadable_of_refusal? {key : Value} (plain : (∃ n, key = .int n) ∨ key.isText = true)
    {f : Failure} (refused : refusal? key = some f) : Unreadable f := by
  have unreadable : ¬Readable key := by
    rw [← refusal?_eq_none_iff plain, refused]
    simp
  rcases resolve_of_not_readable plain unreadable with
    ⟨g, shown, kind⟩ | ⟨text, g, shown, resolved, kind⟩
  · simp only [refusal?, shown, Option.some.injEq] at refused
    exact refused ▸ kind
  · rcases kind with rfl | rfl
    · simp only [refusal?, shown, resolved, Option.some.injEq] at refused
      exact Or.inl refused.symm
    · simp only [refusal?, shown, resolved, Option.some.injEq] at refused
      exact Or.inr refused.symm

end Status

namespace Registry

variable (known : String → Bool)

theorem failure?_responseFindings (location : String) (key : Value) (n : Response) :
    Attempt.failure? (responseFindings known location key (.declared n)) =
      Status.refusal? key := by
  rw [responseFindings, Status.refusal?]
  cases key.shown with
  | error f => rfl
  | ok text =>
      rw [Attempt.ok_bind]
      cases Status.resolve key with
      | ok code => rfl
      | error f => cases f <;> rfl

/-- Searching responses fails with the first key that fails it. -/
theorem failure?_allResponseFindings (location : String)
    {responses : List (Value × Standing Response)}
    (declared : ∀ response ∈ responses, ∃ n, response.2 = .declared n) :
    Attempt.failure? (allResponseFindings known location responses) =
      (responses.map (·.1)).findSome? Status.refusal? := by
  induction responses with
  | nil => rfl
  | cons first rest ih =>
      rcases first with ⟨key, response⟩
      rcases List.forall_mem_cons.mp declared with ⟨⟨n, standing⟩, later⟩
      have equal : response = .declared n := standing
      rw [allResponseFindings, Attempt.failure?_append, equal, failure?_responseFindings, ih later,
        List.map_cons, List.findSome?_cons]
      cases Status.refusal? key <;> rfl

/-- Searching an endpoint of declarations fails with the first response key that fails it. -/
theorem failure?_endpointFindings (location : String) {e : Endpoint} (regular : e.Regular) :
    Attempt.failure? (endpointFindings known location e) =
      e.statusKeys.findSome? Status.refusal? := by
  rcases regular.parameters with ⟨parameters, parametersEq, -⟩
  rcases regular.responses with ⟨responses, responsesEq, standing⟩
  have declared : ∀ response ∈ responses, ∃ n, response.2 = .declared n := by
    intro response listed
    rcases standing response listed with ⟨n, equal, -⟩
    exact ⟨n, equal⟩
  have body : ∃ found, bodyFindings known location e.body = .ok found := by
    cases bodyEq : e.body with
    | none => exact ⟨[], rfl⟩
    | some b =>
        rcases regular.body b bodyEq with ⟨slot, rfl, -⟩
        exact ⟨_, rfl⟩
  rcases body with ⟨bodyFound, bodyEq⟩
  rw [endpointFindings, parametersEq, Held.get_declared, Attempt.ok_do, bodyEq, Attempt.ok_do,
    responsesEq, Held.get_declared, Attempt.ok_do, Endpoint.statusKeys, responsesEq,
    ← failure?_allResponseFindings known location declared]
  cases allResponseFindings known location responses <;> rfl

/-- Searching endpoints fails with the first response key in them that fails it. -/
theorem failure?_allEndpointFindings (index : Nat) {endpoints : List Endpoint}
    (regular : ∀ e ∈ endpoints, e.Regular) :
    Attempt.failure? (allEndpointFindings known index endpoints) =
      (endpoints.flatMap (·.statusKeys)).findSome? Status.refusal? := by
  induction endpoints generalizing index with
  | nil => rfl
  | cons e rest ih =>
      rcases List.forall_mem_cons.mp regular with ⟨first, later⟩
      rw [allEndpointFindings, Attempt.failure?_append, failure?_endpointFindings known _ first,
        ih _ later, List.flatMap_cons, List.findSome?_append]

/-- The search of a registry fails with the first response key that fails it. -/
theorem Built.failure?_problems {r : Registry} (built : r.Built) :
    Attempt.failure? r.problems =
      (r.endpoints.flatMap (·.statusKeys)).findSome? Status.refusal? := by
  rw [← failure?_allEndpointFindings r.has 0 built.regular.endpoints, problems, findings]
  cases allEndpointFindings r.has 0 r.endpoints <;> rfl

end Registry

end ApiContract
