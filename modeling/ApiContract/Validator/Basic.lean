import ApiContract.Registry.Options
import ApiContract.Status
import ApiContract.Validator.Fields

/-!
# Validators

A request validator checks the parameters of an endpoint together with the
properties of its body, as fields of one table; a property takes the place of a
parameter of the same name.  A response validator checks the properties of a
response.  Where there is no field there is no validator.

Every object with properties is a model of its own, named by the fields that lead
to it.  No name of a model holds the null character, so a validator is ready for
use only if none of these fields is named with it.
-/

namespace ApiContract

/-- Fields to check, how to take numbers, and the name of the whole in
messages. -/
structure Validator where
  model : String
  numbers : NumberKind
  fields : Entries String (Slot Node)

/-- The outcome of validating data: the data that are taken, or error trees. -/
structure Validation where
  success : Bool
  data : Entries String Value
  errors : Entries String ErrorTree

namespace Value

/-- Enter pairs, first to last, as entries of a dictionary. -/
def pairsToEntries (entries : List (Value × Value)) :
    List Value → Except Failure (List (Value × Value))
  | [] => .ok entries
  | pair :: rest =>
    match pair.items? with
    | none => .error (.misuse .notItems)
    | some [k, v] =>
      if k.isKey then pairsToEntries (putKey entries k v) rest else .error (.misuse .notKey)
    | some _ => .error (.badValue .notPair)

/-- The entries of a dictionary, given as one or as its pairs. -/
def toEntries : Value → Except Failure (List (Value × Value))
  | .dict es => .ok es
  | .component name => .ok (componentEntries name)
  | v =>
    match v.items? with
    | some pairs => pairsToEntries [] pairs
    | none => .error (.misuse .notItems)

end Value

namespace Node

mutual

/-- Whether a field is an object with properties that is named with the null
character, or leads to one.  No model can be given this name, and of the texts of
characters it is the only one. -/
def nullInName (name : String) : Node → Bool
  | .mk f ps =>
    f.rule (!ps.isEmpty) == .record && (name.toList.contains '\x00' || nullInNames ps)

/-- Whether any of some fields is, or leads to, such an object. -/
def nullInNames : List (String × Slot Node) → Bool
  | [] => false
  | (name, ⟨_, n⟩) :: rest => nullInName name n || nullInNames rest

end

end Node

namespace Validator

/-- Validate the entries of a dictionary. -/
def run (v : Validator) (entries : List (Value × Value)) : Validation :=
  let taken := Node.takeFields v.numbers v.model entries v.fields
  if taken.problems.isEmpty then ⟨true, taken.data, []⟩
  else
    ⟨false, [], ErrorTree.collect (taken.problems.map fun p => (p.path, p.fault.message))⟩

/-- Validate data that are given as a dictionary or as its pairs. -/
def validate (v : Validator) (data : Value) : Except Failure Validation :=
  data.toEntries.map v.run

/-- The table of fields that parameters and properties of a body make. -/
def table (parameters : List Parameter) (body : Option Node) : Entries String (Slot Node) :=
  Entries.putAll (Entries.ofList (parameters.map fun p => (p.name, p.slot)))
    ((body.map Node.properties).getD [])

/-- The validator of a request, unless there is nothing to check. -/
def request? (parameters : List Parameter) (body : Option Node) : Option Validator :=
  let fields := table parameters body
  if fields.isEmpty then none else some ⟨"RequestParams", .integer, fields⟩

/-- The validator of a response, unless there is nothing to check. -/
def response? (n : Response) : Option Validator :=
  if n.properties.isEmpty then none else some ⟨"ResponseBody", .double, n.properties⟩

/-- The remark about a request validator that was compiled. -/
def compiled (v : Validator) : LogLine :=
  ⟨false, .requestValidator,
    "Compiling " ++ v.model ++ " with fields: " ++
      Value.bracketed "[" "]" (v.fields.keys.map Text.quoted)⟩

/-- The validator, if all of its models can be named. -/
def ready (v : Validator) : Except Failure Validator :=
  if Node.nullInNames v.fields then .error (.badValue .nullInName) else .ok v

end Validator

namespace Endpoint

/-- The parameters that stand in an endpoint.  A value that was assigned in place
of them is read as a list of parameters; what counts as not given is none. -/
def standingParameters (e : Endpoint) : Except Failure (List Parameter) :=
  match e.parameters with
  | .declared parameters => .ok parameters
  | .assigned v =>
    if v.isGiven then
      match v.items? with
      | some vs => (checkParameters [(.str "parameters", .list vs)]).toExcept
      | none => .error (.misuse .notItems)
    else .ok []

/-- The validator of the requests to an endpoint, unless there is nothing to
check. -/
def requestValidator? (e : Endpoint) : Except Failure (Option Validator) := do
  let parameters ← e.standingParameters
  let body ← e.body.mapM (Standing.node (·.content))
  return Validator.request? parameters body

/-- Enter the validators of responses, first to last, under the codes of their
keys. -/
def enterValidators (entered : Entries Int Validator) :
    List (Value × Standing Response) → Except Failure (Entries Int Validator)
  | [] => .ok entered
  | (key, response) :: rest => do
    let n ← response.node id
    match Validator.response? n with
    | none => enterValidators entered rest
    | some v =>
      let v ← v.ready
      let code ← Status.resolve key
      enterValidators (entered.put code v) rest

/-- The validators of the responses of an endpoint, by code. -/
def responseValidators (e : Endpoint) : Except Failure (Entries Int Validator) :=
  e.responses.get.bind (enterValidators [])

end Endpoint

end ApiContract
