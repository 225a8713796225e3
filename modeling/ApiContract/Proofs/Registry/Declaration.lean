import ApiContract.Proofs.Attempt
import ApiContract.Proofs.Schema.Outline
import ApiContract.Registry.Call

/-!
# Declaring a tree

A tree of nodes is declared as a component, a parameter, a request body, a
response, or a property of a node that stands already.  All five go the same
way: the options of the root are read, the properties are declared on the node
that they give, and the node that stands in the end is stored, whether or not
declaring stopped.  Only a parameter is held back: it is not stored if declaring
stopped before it was finished.
-/

namespace ApiContract

/-- What a tree of nodes is declared as, and where. -/
inductive Declaration where
  | component (name : Value)
  | parameter (endpoint : Nat) (name : Value)
  | body (endpoint : Nat)
  | response (endpoint : Nat) (status : Value)
  | property (place : NodePlace) (name : Value)

/-- A root that was read: its node before properties are declared on it, and what storing the node
makes of the registry, how it is shown, and what is logged. -/
structure Root where
  node : Node
  store : Node → Registry
  shown : Node → Declared
  log : List LogLine

namespace Declaration

/-- The call that declares a specification. -/
def call (d : Declaration) (spec : NodeSpec) : Call :=
  match d with
  | .component name => .component name spec
  | .parameter endpoint name => .edit endpoint (.addParameter name spec)
  | .body endpoint => .edit endpoint (.setRequestBody spec)
  | .response endpoint status => .edit endpoint (.addResponse status spec)
  | .property place name => .addProperty place name spec

/-- Whether the root is held back until its properties are declared. -/
def holdsBack : Declaration → Bool
  | .parameter _ _ => true
  | _ => false

end Declaration

namespace Endpoint

/-- Read a parameter from its options, and the parameters before it. -/
def checkParameter (e : Endpoint) (name : Value) (options : Options) (inside : Bool) :
    Except Failure (List Parameter × Parameter) := do
  let own ← options.ownFrom inside ["name"]
  let parameters ← e.parameters.get
  let p ← (Parameter.ofOptions ((.str "name", name) :: own)).toExcept
  return (parameters, p)

/-- A parameter is read before its properties are declared. -/
theorem addParameter_eq (e : Endpoint) (name : Value) (spec : NodeSpec) :
    e.addParameter name spec =
      match e.checkParameter name spec.options spec.inside with
      | .error f => (e, .error f)
      | .ok (parameters, p) =>
        let (node, failure) := spec.declareOn p.node
        let p := { p with node := node }
        let dropped := failure.isSome && (spec.inside || spec.options.callFault?.isSome)
        (if dropped then e else { e with parameters := .declared (parameters ++ [p]) },
          answerUnless failure p) :=
  rfl

/-- Where a response is stored, if it can be. -/
def responseStore (responses : Held (List (Value × Standing Response))) (key : Value) :
    Except Failure (Response → Held (List (Value × Standing Response))) :=
  match responses with
  | .declared entries =>
    if key.isKey then .ok fun n => .declared (Value.putKey entries key (.declared n))
    else .error (.misuse .notKey)
  | .assigned v =>
    match storeFault? key v with
    | none => .ok fun _ => .assigned v
    | some f => .error f

/-- Whether a response can be stored does not depend on the response. -/
theorem storeResponse_eq_map (responses : Held (List (Value × Standing Response))) (key : Value)
    (n : Response) :
    storeResponse responses key n = (responseStore responses key).map fun store => store n := by
  cases responses with
  | declared entries =>
      rw [storeResponse, responseStore]
      split <;> rfl
  | assigned v =>
      rw [storeResponse, responseStore]
      cases storeFault? key v <;> rfl

/-- Read a response from its options, and where it is stored. -/
def checkResponse (responses : Held (List (Value × Standing Response))) (status : Value)
    (options : Options) (inside : Bool) :
    Except Failure (Response × (Response → Held (List (Value × Standing Response)))) := do
  let own ← options.ownFrom inside ["status"]
  let n ← (Response.ofOptions own).toExcept
  let store ← responseStore responses status
  return (n, store)

/-- A response is read, and where it is stored, before its properties are declared. -/
theorem addResponse_eq (e : Endpoint) (status : Value) (spec : NodeSpec) :
    e.addResponse status spec =
      match checkResponse e.responses status spec.options spec.inside with
      | .error f => (e, .error f)
      | .ok (n, store) =>
        let (node, failure) := spec.declareOn n
        ({ e with responses := store node }, answerUnless failure node) := by
  simp only [addResponse, checkResponse, NodeSpec.own, storeResponse_eq_map]
  cases spec.options.ownFrom spec.inside ["status"] with
  | error f => rfl
  | ok own =>
      simp only [Attempt.ok_do]
      cases (Response.ofOptions own).toExcept with
      | error f => rfl
      | ok n =>
          simp only [Attempt.ok_do]
          cases responseStore e.responses status <;> rfl

end Endpoint

namespace Registry

/-- Read the root of what is declared, from its options. -/
def readRoot (r : Registry) (options : Options) (inside : Bool) :
    Declaration → Except Failure Root
  | .component name =>
    let checked := (options.ownFrom inside ["name"]).bind fun own =>
      (Component.ofOptions ((.str "name", name) :: own)).toExcept
    checked.map fun c =>
      { node := c.node
        store := fun n => { r with components := r.components ++ [{ c with node := n }] }
        shown := fun n => .component { c with node := n }
        log := [registeredComponent c] }
  | .parameter endpoint name =>
    (r.endpointOf endpoint).bind fun e =>
      (e.checkParameter name options inside).map fun (parameters, p) =>
        { node := p.node
          store := fun n => r.modifyEndpoint endpoint fun _ =>
            { e with parameters := .declared (parameters ++ [{ p with node := n }]) }
          shown := fun n => .parameter { p with node := n }
          log := [] }
  | .body endpoint =>
    (r.endpointOf endpoint).bind fun e =>
      let checked := (options.ownFrom inside []).bind fun own =>
        (RequestBody.ofOptions own).toExcept
      checked.map fun slot =>
        { node := slot.content
          store := fun n => r.modifyEndpoint endpoint fun _ =>
            { e with body := some (.declared ⟨slot.required, n⟩) }
          shown := fun n => .slot ⟨slot.required, n⟩
          log := [] }
  | .response endpoint status =>
    (r.endpointOf endpoint).bind fun e =>
      (Endpoint.checkResponse e.responses status options inside).map fun (n, store) =>
        { node := n
          store := fun n => r.modifyEndpoint endpoint fun _ => { e with responses := store n }
          shown := .node
          log := [] }
  | .property place name =>
    let checked := (r.node place).bind fun _ => Property.read name options inside
    checked.map fun (key, slot) =>
      { node := slot.content
        store := fun n => r.modifyNode (·.putProperty key ⟨slot.required, n⟩) place
        shown := fun n => .slot ⟨slot.required, n⟩
        log := [] }

/-- Changing an endpoint into itself changes nothing. -/
theorem modifyEndpoint_self {r : Registry} {index : Nat} {e : Endpoint}
    (found : r.endpointOf index = .ok e) : (r.modifyEndpoint index fun _ => e) = r := by
  have standing : r.endpoints[index]? = some e := itemAt_eq_ok_iff.mp found
  have same : r.endpoints.modify index (fun _ => e) = r.endpoints := by
    apply List.ext_getElem?
    intro i
    rw [List.getElem?_modify]
    by_cases here : index = i
    · subst here
      simp [standing]
    · simp [here]
  rw [modifyEndpoint, same]

/-- What is declared goes one way: its root is read, its properties are declared on the root, and
what stands in the end is stored, unless it is held back. -/
theorem call_declaration (r : Registry) (d : Declaration) (spec : NodeSpec) :
    r.call (d.call spec) =
      match r.readRoot spec.options spec.inside d with
      | .error f => .unchanged r (.error f)
      | .ok root =>
        let (n, failure) := spec.declareOn root.node
        let dropped := d.holdsBack && failure.isSome &&
          (spec.inside || spec.options.callFault?.isSome)
        ⟨if dropped then r else root.store n, answerUnless failure (root.shown n), root.log⟩ := by
  cases d with
  | component name =>
      simp only [Declaration.call, call, Outcome.shown, component, readRoot, NodeSpec.own]
      cases (spec.options.ownFrom spec.inside ["name"]).bind fun own =>
          (Component.ofOptions ((.str "name", name) :: own)).toExcept with
      | error f => rfl
      | ok c =>
          simp only [Attempt.map_ok]
          rcases spec.declareOn c.node with ⟨n, _ | f⟩ <;> rfl
  | parameter endpoint name =>
      simp only [Declaration.call, call, edit, readRoot]
      cases found : r.endpointOf endpoint with
      | error f => rfl
      | ok e =>
          simp only [Attempt.ok_bind, Endpoint.edit, Endpoint.addParameter_eq]
          cases e.checkParameter name spec.options spec.inside with
          | error f => simp only [Attempt.map_error, modifyEndpoint_self found, Outcome.unchanged]
          | ok checked =>
              simp only [Attempt.map_ok, Declaration.holdsBack, Bool.true_and]
              rcases spec.declareOn checked.2.node with ⟨n, _ | f⟩
              · rfl
              · -- What is held back leaves the endpoint as it is.
                cases spec.inside || spec.options.callFault?.isSome
                · rfl
                · simp [modifyEndpoint_self found, answerUnless, Except.map]
  | body endpoint =>
      simp only [Declaration.call, call, edit, readRoot]
      cases found : r.endpointOf endpoint with
      | error f => rfl
      | ok e =>
          simp only [Attempt.ok_bind, Endpoint.edit, Endpoint.setRequestBody, NodeSpec.own]
          cases (spec.options.ownFrom spec.inside []).bind fun own =>
              (RequestBody.ofOptions own).toExcept with
          | error f => simp only [Attempt.map_error, modifyEndpoint_self found, Outcome.unchanged]
          | ok slot =>
              simp only [Attempt.map_ok]
              rcases spec.declareOn slot.content with ⟨n, _ | f⟩ <;> rfl
  | response endpoint status =>
      simp only [Declaration.call, call, edit, readRoot]
      cases found : r.endpointOf endpoint with
      | error f => rfl
      | ok e =>
          simp only [Attempt.ok_bind, Endpoint.edit, Endpoint.addResponse_eq]
          cases Endpoint.checkResponse e.responses status spec.options spec.inside with
          | error f => simp only [Attempt.map_error, modifyEndpoint_self found, Outcome.unchanged]
          | ok checked =>
              simp only [Attempt.map_ok]
              rcases spec.declareOn checked.1 with ⟨n, _ | f⟩ <;> rfl
  | property place name =>
      simp only [Declaration.call, call, Outcome.shown, addProperty, readRoot,
        NodeSpec.declareProperty_eq_map, ← Attempt.map_bind]
      cases (r.node place).bind fun _ => Property.read name spec.options spec.inside with
      | error f => rfl
      | ok property =>
          simp only [Attempt.map_ok]
          rcases spec.declareOn property.2.content with ⟨n, _ | f⟩ <;> rfl

/-- Where a root is read and can be called with, the declaration fails if and where its properties
do. -/
theorem call_of_readRoot {r : Registry} {d : Declaration} {spec : NodeSpec} {root : Root}
    (read : r.readRoot spec.options spec.inside d = .ok root)
    (callable : spec.options.callFault? = none) :
    r.call (d.call spec) =
      let (n, failure) := spec.declareOn root.node
      ⟨if d.holdsBack && failure.isSome && spec.inside then r else root.store n,
        answerUnless failure (root.shown n), root.log⟩ := by
  rw [call_declaration, read, callable, Option.isSome_none, Bool.or_false]

/-- Nothing is declared where the root is refused. -/
theorem call_of_readRoot_error {r : Registry} {d : Declaration} {spec : NodeSpec} {f : Failure}
    (refused : r.readRoot spec.options spec.inside d = .error f) :
    r.call (d.call spec) = .unchanged r (.error f) := by
  rw [call_declaration, refused]

/-- Where a root is read and all properties are declared, the node that stands in the end is
stored. -/
theorem call_of_complete {r : Registry} {d : Declaration} {options : Options} {inside : Bool}
    {properties : List (Value × NodeSpec)} {root : Root} {n : Node}
    (read : r.readRoot options inside d = .ok root) (callable : options.callFault? = none)
    (complete : NodeSpec.declareProperties root.node properties = (n, none)) :
    r.call (d.call (.mk options inside properties)) =
      ⟨root.store n, .ok (root.shown n), root.log⟩ := by
  rw [@call_of_readRoot r d (.mk options inside properties) root read callable, NodeSpec.declareOn,
    NodeSpec.options_mk, callable, NodeSpec.properties_mk]
  simp [complete, answerUnless]

end Registry

end ApiContract
