import ApiContract.Proofs.Registry.Built
import ApiContract.Proofs.Validator.Report

/-!
# Validators of endpoints

The validators of the endpoints of a registry that is built by declaring are
compiled from declared fields, so what is said of such validators holds of them.
-/

namespace ApiContract

/-- Getting ready changes no validator. -/
theorem Validator.eq_of_ready {v w : Validator} (ready : v.ready = .ok w) : v = w := by
  rw [Validator.ready] at ready
  split at ready
  · simp at ready
  · exact Except.ok.inj ready

namespace Endpoint

variable {e : Endpoint}

/-- The validator of the requests to an endpoint that holds declarations only is compiled
from its parameters and the properties of its body. -/
theorem Regular.compiledFrom_request (regular : e.Regular) {v : Validator}
    (compiled : e.requestValidator? = .ok (some v)) :
    ∃ declared, Validator.CompiledFrom declared .integer v := by
  obtain ⟨parameters, parametersEq, parametersDistinct⟩ := regular.parameters
  simp only [requestValidator?, standingParameters, parametersEq, Attempt.do_eq_ok_iff,
    Attempt.pure_eq_ok_iff] at compiled
  rcases compiled with ⟨others, equal, body, bodyEq, request⟩
  cases equal
  refine ⟨_, .request parametersDistinct ?_ request⟩
  intro n some
  subst some
  cases standing : e.body with
  | none =>
      rw [standing] at bodyEq
      exact absurd (Except.ok.inj bodyEq) (Option.some_ne_none n).symm
  | some declared =>
      obtain ⟨slot, rfl, distinct⟩ := regular.body declared standing
      rw [standing] at bodyEq
      have content : slot.content = n := Option.some.inj (Except.ok.inj bodyEq)
      rw [← content]
      exact distinct

/-- The validators of responses that are declared are compiled from their properties. -/
theorem compiledFrom_of_enterValidators {responses : List (Value × Standing Response)}
    (declared : ∀ response ∈ responses, ∃ n, response.2 = .declared n ∧ n.Distinct)
    {before validators : Entries Int Validator}
    (earlier : ∀ entry ∈ before, ∃ declared, Validator.CompiledFrom declared .double entry.2)
    (entered : enterValidators before responses = .ok validators) :
    ∀ entry ∈ validators, ∃ declared, Validator.CompiledFrom declared .double entry.2 := by
  induction responses generalizing before with
  | nil =>
      cases entered
      exact earlier
  | cons first rest ih =>
      rcases first with ⟨key, response⟩
      obtain ⟨⟨n, rfl, distinct⟩, restDeclared⟩ := List.forall_mem_cons.mp declared
      rw [enterValidators, Attempt.do_eq_ok_iff] at entered
      rcases entered with ⟨m, node, entered⟩
      cases node
      cases response : Validator.response? n with
      | none =>
          simp only [id, response] at entered
          exact ih restDeclared earlier entered
      | some v =>
          simp only [id, response, Attempt.do_eq_ok_iff] at entered
          rcases entered with ⟨w, ready, code, -, entered⟩
          have sofar : ∀ entry ∈ before.put code w,
              ∃ declared, Validator.CompiledFrom declared .double entry.2 := by
            intro entry member
            rcases Entries.mem_put member with before | stored
            · exact earlier entry before
            · rw [stored, ← Validator.eq_of_ready ready]
              exact ⟨_, .response distinct response⟩
          exact ih restDeclared sofar entered

theorem Regular.compiledFrom_responses (regular : e.Regular) {validators : Entries Int Validator}
    (compiled : e.responseValidators = .ok validators) :
    ∀ entry ∈ validators, ∃ declared, Validator.CompiledFrom declared .double entry.2 := by
  obtain ⟨responses, responsesEq, declared⟩ := regular.responses
  rw [responseValidators, responsesEq] at compiled
  exact compiledFrom_of_enterValidators declared (by simp) compiled

end Endpoint

/-- All validators of an endpoint of a registry that is built by declaring are compiled
from declared fields. -/
theorem Registry.Built.compiledFrom {r : Registry} (built : r.Built) {e : Endpoint}
    (member : e ∈ r.endpoints) :
    (∀ v, e.requestValidator? = .ok (some v) →
      ∃ declared, Validator.CompiledFrom declared .integer v) ∧
      ∀ validators, e.responseValidators = .ok validators → ∀ entry ∈ validators,
        ∃ declared, Validator.CompiledFrom declared .double entry.2 := by
  have regular := built.regular.endpoints e member
  exact ⟨fun _ compiled => regular.compiledFrom_request compiled,
    fun _ compiled => regular.compiledFrom_responses compiled⟩

end ApiContract
