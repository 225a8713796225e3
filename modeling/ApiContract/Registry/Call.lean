import ApiContract.Registry.Place
import ApiContract.Storage.Derive

/-!
# Declaring into a registry

Everything that can be done to a registry is a `Call`.  A call that fails leaves
what it did before the failure; it never takes back what was declared by calls
before it.
-/

namespace ApiContract

/-- What can be done to a registry. -/
inductive Call where
  | component (name : Value) (spec : NodeSpec)
  | endpoint (edits : List Edit)
  | edit (endpoint : Nat) (edit : Edit)
  | addProperty (place : NodePlace) (name : Value) (spec : NodeSpec)
  | assignNode (place : NodePlace) (field : String) (value : Value)
  | assignEndpoint (endpoint : Nat) (field : String) (value : Value)
  | derive (name attributes : Value) (storage : Storage)
      (properties : List (Value × NodeSpec))

/-- Whether a name is set apart from those of fields.  What is assigned to it is
kept out of sight. -/
def isSetApart (field : String) : Bool :=
  field.toList.head? == some '_'

/-- The field of a node that holds its shape. -/
def shapeField : String :=
  "_shape"

/-- What a value stands for as the responses of an endpoint. -/
def Held.responsesOfValue : Value → Held (List (Value × Standing Response))
  | .dict entries => .declared (entries.map fun e => (e.1, .ofValue e.2))
  | v => .assigned v

/-- What a value stands for as the request body of an endpoint; null is none. -/
def Standing.bodyOfValue : Value → Option (Standing RequestBody)
  | .null => none
  | v => some (.ofValue v)

/-- The endpoint after an assignment to one of its fields, which take any
value. -/
def Endpoint.assign (e : Endpoint) (field : String) (value : Value) : Except Failure Endpoint :=
  if isSetApart field then .ok e
  else
    match field with
    | "path" => .ok { e with path := value }
    | "description" => .ok { e with description := value }
    | "operations" => .ok { e with operations := value }
    | "parameters" => .ok { e with parameters := .assigned value }
    | "request_body" => .ok { e with body := Standing.bodyOfValue value }
    | "responses" => .ok { e with responses := Held.responsesOfValue value }
    | _ => .error (.badValue (.unknownField field))

/-- The outcome with what was declared shown. -/
def Outcome.shown {α : Type} (f : α → Declared) (o : Outcome α) :
    Outcome Declared :=
  ⟨o.registry, o.answer.map f, o.log⟩

namespace Registry

/-- The remark about a component that was declared. -/
def registeredComponent (c : Component) : LogLine :=
  ⟨false, .registry, "Registered component: " ++ c.name⟩

/-- Declare a component.  It is stored before what is called with it and before
its properties. -/
def component (r : Registry) (name : Value) (spec : NodeSpec) : Outcome Component :=
  let checked := (spec.own ["name"]).bind fun own =>
    (Component.ofOptions ((.str "name", name) :: own)).toExcept
  match checked with
  | .error f => .unchanged r (.error f)
  | .ok c =>
    let (node, failure) := spec.declareOn c.node
    let declared : Component := { c with node := node }
    ⟨{ r with components := r.components ++ [declared] }, answerUnless failure declared,
      [registeredComponent c]⟩

/-- The remark about an endpoint that was declared. -/
def registeredEndpoint (e : Endpoint) : Except Failure LogLine := do
  let operations ← e.operations.shown
  let path ← e.path.shown
  return ⟨false, .registry, "Registered endpoint: " ++ operations ++ " " ++ path⟩

/-- Declare an endpoint and fill it in. -/
def endpoint (r : Registry) (edits : List Edit) : Outcome Endpoint :=
  let (e, failure) := Endpoint.empty.configure edits
  let registry : Registry := { r with endpoints := r.endpoints ++ [e] }
  match failure, registeredEndpoint e with
  | some f, _ => ⟨registry, .error f, []⟩
  | none, .error f => ⟨registry, .error f, []⟩
  | none, .ok remark => ⟨registry, .ok e, [remark]⟩

/-- Do an edit on an endpoint. -/
def edit (r : Registry) (index : Nat) (edit : Edit) : Outcome Declared :=
  match r.endpointOf index with
  | .error f => .unchanged r (.error f)
  | .ok e =>
    let (e, answer) := e.edit edit
    ⟨r.modifyEndpoint index fun _ => e, answer, []⟩

/-- Declare a property of the node at a place. -/
def addProperty (r : Registry) (place : NodePlace) (name : Value) (spec : NodeSpec) :
    Outcome Property :=
  match (r.node place).bind fun _ => NodeSpec.declareProperty name spec with
  | .error f => .unchanged r (.error f)
  | .ok (key, slot, failure) =>
    ⟨r.modifyNode (·.putProperty key slot) place, answerUnless failure slot, []⟩

/-- Assign to a field of a node.  Nodes are frozen, but a mark can be put in the
place of the shape. -/
def assignNode (r : Registry) (place : NodePlace) (field : String) (value : Value) :
    Outcome Declared :=
  match r.node place with
  | .error f => .unchanged r (.error f)
  | .ok _ =>
    if field == shapeField then
      let r := r.modifyNode (·.putMark value) place
      .unchanged r (r.declared place)
    else if isSetApart field then .unchanged r (r.declared place)
    else .unchanged r (.error (.invalid [⟨[field], .frozen⟩]))

/-- Assign to a field of an endpoint. -/
def assignEndpoint (r : Registry) (index : Nat) (field : String) (value : Value) :
    Outcome Declared :=
  match (r.endpointOf index).bind (·.assign field value) with
  | .error f => .unchanged r (.error f)
  | .ok e => ⟨r.modifyEndpoint index fun _ => e, .ok (.endpoint e), []⟩

/-- Derive a component from the attributes of a resource, the properties that are
declared beforehand first. -/
def derive (r : Registry) (name attributes : Value) (storage : Storage)
    (properties : List (Value × NodeSpec)) : Outcome Component :=
  let options := Options.ofEntries [("type", .str "object")]
  let declared := r.component name (.mk options true properties)
  match declared.answer with
  | .error _ => declared
  | .ok c =>
    let (node, failure, log) :=
      match attributes.items? with
      | some attributes => storage.deriveProperties c.name c.node attributes
      | none => (c.node, some (.misuse .notItems), [])
    let derived : Component := { c with node := node }
    ⟨{ r with components := r.components ++ [derived] }, answerUnless failure derived,
      declared.log ++ log⟩

/-- Do a call. -/
def call (r : Registry) : Call → Outcome Declared
  | .component name spec => (r.component name spec).shown .component
  | .endpoint edits => (r.endpoint edits).shown .endpoint
  | .edit index edit => r.edit index edit
  | .addProperty place name spec => (r.addProperty place name spec).shown .slot
  | .assignNode place field value => r.assignNode place field value
  | .assignEndpoint index field value => r.assignEndpoint index field value
  | .derive name attributes storage properties =>
    (r.derive name attributes storage properties).shown .component

end Registry

end ApiContract
