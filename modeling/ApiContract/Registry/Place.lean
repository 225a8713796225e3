import ApiContract.Registry.Edit

/-!
# Places in a registry

A node of a registry is found by where its tree is rooted and by the names of
the properties that lead to it.
-/

namespace ApiContract

/-- Where a tree of nodes is rooted: at a component, or at a parameter, a
response or the request body of an endpoint, all counted in order of
declaration. -/
inductive NodeRoot where
  | component (index : Nat)
  | parameter (endpoint index : Nat)
  | response (endpoint index : Nat)
  | body (endpoint : Nat)
  deriving DecidableEq

/-- A root, and the names of the properties that lead from it to a node. -/
structure NodePlace where
  root : NodeRoot
  names : List String
  deriving DecidableEq

namespace Node

/-- The slot of a property. -/
def slot (name : String) (n : Node) : Except Failure (Slot Node) :=
  match n.properties.get? name with
  | some slot => .ok slot
  | none => .error (.nameMissing name)

/-- The node that names of properties lead to. -/
def descend : List String → Node → Except Failure Node
  | [], n => .ok n
  | name :: names, n => (n.slot name).bind fun slot => descend names slot.content

/-- Change the node that names of properties lead to, if they lead to one. -/
def modifyAt (f : Node → Node) : List String → Node → Node
  | [], n => f n
  | name :: names, n =>
    match n.properties.get? name with
    | some slot => n.putProperty name ⟨slot.required, modifyAt f names slot.content⟩
    | none => n

end Node

/-- What stands under a number in a list. -/
def itemAt {α : Type} (list : List α) (index : Nat) : Except Failure α :=
  match list[index]? with
  | some a => .ok a
  | none => .error .nothingThere

theorem itemAt_eq_ok_iff {α : Type} {list : List α} {index : Nat} {a : α} :
    itemAt list index = .ok a ↔ list[index]? = some a := by
  rw [itemAt]
  cases list[index]? <;> simp

/-- Change the content of a slot. -/
def Slot.modify {α : Type} (f : α → α) (slot : Slot α) : Slot α :=
  { slot with content := f slot.content }

namespace Endpoint

/-- The parameter of a number. -/
def parameter (e : Endpoint) (index : Nat) : Except Failure Parameter :=
  e.parameters.get.bind fun parameters => itemAt parameters index

/-- What stands as the response of a number. -/
def response (e : Endpoint) (index : Nat) : Except Failure (Standing Response) :=
  e.responses.get.bind fun responses => (itemAt responses index).map (·.2)

/-- What stands as the request body. -/
def requestBody (e : Endpoint) : Except Failure (Standing RequestBody) :=
  match e.body with
  | some body => .ok body
  | none => .error .lacking

/-- Change the node of the parameter of a number. -/
def modifyParameter (f : Node → Node) (index : Nat) (e : Endpoint) : Endpoint :=
  match e.parameters with
  | .declared parameters =>
    { e with
      parameters := .declared (parameters.modify index fun p => { p with node := f p.node }) }
  | .assigned _ => e

/-- Change the node of the response of a number. -/
def modifyResponse (f : Node → Node) (index : Nat) (e : Endpoint) : Endpoint :=
  match e.responses with
  | .declared responses =>
    { e with responses := .declared (responses.modify index fun r => (r.1, r.2.modify id f)) }
  | .assigned _ => e

/-- Change the node of the request body. -/
def modifyBody (f : Node → Node) (e : Endpoint) : Endpoint :=
  { e with body := e.body.map (Standing.modify Slot.modify f) }

end Endpoint

namespace Registry

/-- The component of a number. -/
def componentOf (r : Registry) (index : Nat) : Except Failure Component :=
  itemAt r.components index

/-- The endpoint of a number. -/
def endpointOf (r : Registry) (index : Nat) : Except Failure Endpoint :=
  itemAt r.endpoints index

/-- Change the endpoint of a number. -/
def modifyEndpoint (r : Registry) (index : Nat) (f : Endpoint → Endpoint) : Registry :=
  { r with endpoints := r.endpoints.modify index f }

/-- The node at a root. -/
def rootNode (r : Registry) : NodeRoot → Except Failure Node
  | .component i => (r.componentOf i).map (·.node)
  | .parameter e i => (r.endpointOf e).bind fun e => (e.parameter i).map (·.node)
  | .response e i => (r.endpointOf e).bind fun e => (e.response i).bind (Standing.node id)
  | .body e => (r.endpointOf e).bind fun e => e.requestBody.bind (Standing.node (·.content))

/-- Change the node at a root. -/
def modifyRoot (r : Registry) (f : Node → Node) : NodeRoot → Registry
  | .component i =>
    { r with components := r.components.modify i fun c => { c with node := f c.node } }
  | .parameter e i => r.modifyEndpoint e (Endpoint.modifyParameter f i)
  | .response e i => r.modifyEndpoint e (Endpoint.modifyResponse f i)
  | .body e => r.modifyEndpoint e (Endpoint.modifyBody f)

/-- The node at a place. -/
def node (r : Registry) (place : NodePlace) : Except Failure Node :=
  (r.rootNode place.root).bind (Node.descend place.names)

/-- Change the node at a place. -/
def modifyNode (r : Registry) (f : Node → Node) (place : NodePlace) : Registry :=
  r.modifyRoot (Node.modifyAt f place.names) place.root

/-- What stands somewhere, as it is shown, where `shown` shows a declaration. -/
def declaredStanding {α : Type} (shown : α → Declared) :
    Standing α → Except Failure Declared
  | .declared a => .ok (shown a)
  | .component c => .ok (.component c)
  | .value _ => .error .lacking

/-- What is declared at a root, as it is shown. -/
def declaredRoot (r : Registry) : NodeRoot → Except Failure Declared
  | .component i => (r.componentOf i).map .component
  | .parameter e i => (r.endpointOf e).bind fun e => (e.parameter i).map .parameter
  | .response e i => (r.endpointOf e).bind fun e => (e.response i).bind (declaredStanding .node)
  | .body e => (r.endpointOf e).bind fun e => e.requestBody.bind (declaredStanding .slot)

/-- What is declared at a place, as it is shown. -/
def declared (r : Registry) (place : NodePlace) : Except Failure Declared :=
  match place.names.getLast? with
  | none => r.declaredRoot place.root
  | some last =>
    (r.rootNode place.root).bind fun n =>
      (Node.descend place.names.dropLast n).bind fun parent => (parent.slot last).map .slot

end Registry

end ApiContract
