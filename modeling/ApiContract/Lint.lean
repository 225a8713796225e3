import ApiContract.Registry.Basic
import ApiContract.Status

/-!
# Malformed declarations

A node is malformed if it is an array without an element type, or a reference
to a component that is not declared.  A registry is searched for malformed
nodes, for components declared twice, for endpoints without a path or an
operation, and for response keys that name no status.

The search gives findings, each at its location, in order.  A report is the
mapping that they make: a later finding at the same location replaces an
earlier one.
-/

namespace ApiContract

/-- Findings by location, in the order in which they are made. -/
abbrev Findings := List (String × String)

/-- What is wrong with a node itself. -/
def Facets.defect? (known : String → Bool) (f : Facets) : Option String :=
  match f.shape with
  | .array => if Shape.isNamed f.element then none else some "array type requires 'of'"
  | .reference =>
    let target := f.target.getD ""
    if known target then none else some ("references unknown component '" ++ target ++ "'")
  | .union | .object | .scalar => none

namespace Node

mutual

/-- The findings in a node and in its properties, the node first. -/
def findings (known : String → Bool) (location : String) : Node → Findings
  | .mk f ps => ((f.defect? known).map (location, ·)).toList ++ propertyFindings known location ps

/-- The findings in the properties of a node at a location. -/
def propertyFindings (known : String → Bool) (location : String) :
    List (String × Slot Node) → Findings
  | [] => []
  | (name, ⟨_, n⟩) :: rest =>
    findings known (location ++ ".properties." ++ name) n ++ propertyFindings known location rest

end

/-- The report of a node. -/
def check (known : String → Bool) (location : String) (n : Node) : Entries String String :=
  Entries.ofList (n.findings known location)

end Node

namespace Registry

/-- The findings in components, where `seen` are the names of those before. -/
def componentFindings (known : String → Bool) : List String → List Component → Findings
  | _, [] => []
  | seen, c :: rest =>
    let location := "components." ++ c.name
    (if seen.contains c.name then [(location, "component declared more than once")] else []) ++
      c.node.findings known location ++ componentFindings known (seen ++ [c.name]) rest

/-- The findings in what stands as a response under a key.  A key that names no
status is a finding, and then the response is not looked at; a key that fails
otherwise fails the search. -/
def responseFindings (known : String → Bool) (location : String) (key : Value)
    (response : Standing Response) : Except Failure Findings :=
  key.shown.bind fun text =>
    let location := location ++ ".responses." ++ text
    match Status.resolve key with
    | .ok _ => (response.node id).map (Node.findings known location)
    | .error (.unknownStatus status names) =>
      .ok [(location, ((Failure.unknownStatus status names).message?).getD "")]
    | .error f => .error f

/-- The findings in the responses of an endpoint at a location. -/
def allResponseFindings (known : String → Bool) (location : String) :
    List (Value × Standing Response) → Except Failure Findings
  | [] => .ok []
  | (key, response) :: rest => do
    let head ← responseFindings known location key response
    let tail ← allResponseFindings known location rest
    return head ++ tail

/-- The findings in parameters of an endpoint at a location. -/
def parameterFindings (known : String → Bool) (location : String)
    (parameters : List Parameter) : Findings :=
  parameters.flatMap fun p => p.node.findings known (location ++ ".parameters." ++ p.name)

/-- The findings in what stands as the request body of an endpoint at a
location. -/
def bodyFindings (known : String → Bool) (location : String) :
    Option (Standing RequestBody) → Except Failure Findings
  | none => .ok []
  | some body =>
    (body.node (·.content)).map (Node.findings known (location ++ ".request_body"))

/-- The findings in an endpoint at a location that are not about what is declared
in it. -/
def ownFindings (location : String) (e : Endpoint) : Findings :=
  (if e.path.isGiven then [] else [(location ++ ".path", "endpoint has no path")]) ++
    if e.operations.isGiven then []
    else [(location ++ ".operations", "endpoint declares no operations")]

/-- The findings in an endpoint at a location. -/
def endpointFindings (known : String → Bool) (location : String) (e : Endpoint) :
    Except Failure Findings := do
  let parameters ← e.parameters.get
  let body ← bodyFindings known location e.body
  let responses ← e.responses.get
  let responses ← allResponseFindings known location responses
  return ownFindings location e ++ parameterFindings known location parameters ++ body ++ responses

/-- The location of the endpoint of a number. -/
def endpointLocation (index : Nat) : String :=
  "endpoints[" ++ toString index ++ "]"

/-- The findings in endpoints, numbered from `index`. -/
def allEndpointFindings (known : String → Bool) : Nat → List Endpoint → Except Failure Findings
  | _, [] => .ok []
  | index, e :: rest => do
    let head ← endpointFindings known (endpointLocation index) e
    let tail ← allEndpointFindings known (index + 1) rest
    return head ++ tail

/-- All findings in a registry. -/
def findings (r : Registry) : Except Failure Findings :=
  (allEndpointFindings r.has 0 r.endpoints).map fun endpoints =>
    componentFindings r.has [] r.components ++ endpoints

/-- The report of a registry: empty when every declaration is well formed. -/
def problems (r : Registry) : Except Failure (Entries String String) :=
  r.findings.map Entries.ofList

end Registry

end ApiContract
