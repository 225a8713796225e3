import ApiContract.Log
import ApiContract.Registry.Held
import ApiContract.Schema.Spec
import ApiContract.Text.LetterCase

/-!
# Registries

A registry holds the components and endpoints of one API in the order in which
they were declared.  Nothing is ever taken out; a component stays as it was
declared but for properties that are added to it, and an endpoint is filled in
step by step.
-/

namespace ApiContract

/-- A path with its operations and their inputs and outputs.  Paths,
descriptions and response keys are kept as they were given; operations are a
list of texts unless they were assigned. -/
structure Endpoint where
  path : Value
  description : Value
  operations : Value
  parameters : Held (List Parameter)
  body : Option (Standing RequestBody)
  responses : Held (List (Value × Standing Response))
  deriving DecidableEq

/-- An endpoint of which nothing is declared yet. -/
def Endpoint.empty : Endpoint :=
  ⟨.null, .str "", .list [], .declared [], none, .declared []⟩

/-- Whether an endpoint is on a path and has an operation. -/
def Endpoint.answers (e : Endpoint) (path : Value) (verb : String) : Except Failure Bool :=
  if e.path.same path then
    match e.operations.holds? verb with
    | some found => .ok found
    | none => .error (.misuse .notItems)
  else .ok false

/-- The components and endpoints declared for one API. -/
structure Registry where
  components : List Component
  endpoints : List Endpoint
  deriving DecidableEq

namespace Registry

/-- A registry in which nothing is declared. -/
def empty : Registry :=
  ⟨[], []⟩

/-- The names of the components, in order of declaration. -/
def names (r : Registry) : List String :=
  r.components.map (·.name)

/-- Whether a component of this name is declared. -/
def has (r : Registry) (name : String) : Bool :=
  r.names.contains name

/-- Whether a component is declared under the text of a value; null names
none. -/
def hasValue (r : Registry) : Value → Except Failure Bool
  | .null => .ok false
  | v => v.shown.map r.has

/-- The names of the components, each once, in order of their characters. -/
def sortedNames (r : Registry) : List String :=
  r.names.eraseDups.mergeSort fun s t => decide (s ≤ t)

/-- The first endpoint on a path with an operation, and its number, where the
endpoints are numbered from `index`. -/
def findFrom (path : Value) (verb : String) :
    Nat → List Endpoint → Except Failure (Option (Nat × Endpoint))
  | _, [] => .ok none
  | index, e :: rest =>
    (e.answers path verb).bind fun found =>
      if found then .ok (some (index, e)) else findFrom path verb (index + 1) rest

/-- The first endpoint on a path with an operation, in any spelling of its letters,
and its number. -/
def find? (r : Registry) (path : Value) (method : String) :
    Except Failure (Option (Nat × Endpoint)) :=
  findFrom path (Text.lower method) 0 r.endpoints

end Registry

/-- What an operation on a registry leaves behind: the registry, whether or not
the operation failed, its answer, and what was logged. -/
structure Outcome (α : Type) where
  registry : Registry
  answer : Except Failure α
  log : List LogLine

namespace Outcome

variable {α β : Type}

/-- The outcome of an operation that leaves the registry alone. -/
def unchanged (r : Registry) (answer : Except Failure α) : Outcome α :=
  ⟨r, answer, []⟩

/-- The outcome with the answer made into another, which may fail. -/
def answered (f : α → Except Failure β) (o : Outcome α) : Outcome β :=
  ⟨o.registry, o.answer.bind f, o.log⟩

end Outcome

end ApiContract
