import ApiContract.Document.Build
import ApiContract.Registry.Call
import ApiContract.Validator.Basic

/-!
# Building registries

A builder declares into a registry and asks it questions, one after the other.
The first that fails ends the building; what was declared and logged until then
stays.
-/

namespace ApiContract

/-- Something to do with a registry, with an answer. -/
def Builder (α : Type) : Type :=
  Registry → Outcome α

namespace Builder

variable {α β : Type}

/-- Do what a builder does with a registry. -/
def run (b : Builder α) (r : Registry) : Outcome α :=
  b r

/-- Answer without looking at the registry. -/
def ofExcept (answer : Except Failure α) : Builder α :=
  fun r => .unchanged r answer

/-- Do one thing and, if it does not fail, what follows from its answer. -/
def andThen (b : Builder α) (next : α → Builder β) : Builder β :=
  fun r =>
    match b.run r with
    | ⟨r, .error f, log⟩ => ⟨r, .error f, log⟩
    | ⟨r, .ok a, log⟩ =>
      let o := (next a).run r
      ⟨o.registry, o.answer, log ++ o.log⟩

instance : Monad Builder where
  pure a := ofExcept (.ok a)
  bind := andThen

/-- What was done before a failure stays. -/
theorem run_bind_of_error {b : Builder α} {r s : Registry} {f : Failure} {log : List LogLine}
    (h : b.run r = ⟨s, .error f, log⟩) (next : α → Builder β) :
    (b >>= next).run r = ⟨s, .error f, log⟩ := by
  simp only [bind, andThen, run] at h ⊢
  rw [h]

/-- What follows starts from the registry that was left behind, and its log comes
after. -/
theorem run_bind_of_ok {b : Builder α} {r s : Registry} {a : α} {log : List LogLine}
    (h : b.run r = ⟨s, .ok a, log⟩) (next : α → Builder β) :
    (b >>= next).run r =
      ⟨((next a).run s).registry, ((next a).run s).answer, log ++ ((next a).run s).log⟩ := by
  simp only [bind, andThen, run] at h ⊢
  rw [h]

/-- Ask for something that is found in the registry. -/
def ask (question : Registry → Except Failure α) : Builder α :=
  fun r => .unchanged r (question r)

/-- Do a call. -/
def call (c : Call) : Builder Declared :=
  fun r => r.call c

/-- Compile the document, which reports malformed declarations. -/
def compile (info : DocumentInfo) (strict : Bool) : Builder Value :=
  fun r =>
    let compilation := r.compile info strict
    ⟨r, compilation.result, compilation.warnings⟩

/-- Make a remark. -/
def remark (line : LogLine) : Builder Unit :=
  fun r => ⟨r, .ok (), [line]⟩

/-- Compile the validator of the requests to an endpoint, unless there is nothing
to check. -/
def prepare (endpoint : Nat) : Builder (Option Validator) := do
  match ← ask fun r => (r.endpointOf endpoint).bind Endpoint.requestValidator? with
  | none => return none
  | some v =>
    remark v.compiled
    let v ← ofExcept v.ready
    return some v

end Builder

end ApiContract
