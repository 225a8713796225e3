import ApiContract.Document.Info
import ApiContract.Document.Schema
import ApiContract.Lint
import ApiContract.Value.TextKeys

/-!
# Documents

A document is compiled from a registry: its settings, the operations by path,
and the schemas of the components.  An endpoint without a path is left out.
Where two endpoints declare the same operation of one path, the later one
stands; where two response keys name the same code, the later response does.

Compiling fails on a response key that names no status, on a path that cannot be
a key, and on what cannot be displayed.  In strict mode it fails on any
malformed declaration instead, and otherwise reports each of them as a warning.
-/

namespace ApiContract

/-- The kind of content that documents describe. -/
def contentType : String :=
  "application/json"

/-- A schema as the description of content. -/
def contentOf (schema : Mapping) : Value :=
  Value.record [(contentType, Value.record [("schema", Value.record schema)])]

namespace Response

/-- A response in a document. -/
def describe (registered : String → Bool) (n : Response) : Except Failure Mapping :=
  (n.contentSchema? registered).map fun schema =>
    [("description", .str n.facets.description), ("headers", Value.record []),
      ("content", contentOf schema)]

end Response

namespace RequestBody

/-- A request body in a document. -/
def describe (registered : String → Bool) (body : RequestBody) : Except Failure Mapping :=
  (body.content.contentSchema? registered).map fun schema =>
    [("description", .str body.content.facets.description), ("required", .bool body.required),
      ("content", contentOf schema)]

end RequestBody

namespace Parameter

/-- A parameter in a document. -/
def describe (registered : String → Bool) (p : Parameter) : Except Failure Mapping :=
  (p.node.contentSchema? registered).map fun schema =>
    [("name", .str p.name), ("in", .str p.location), ("required", .bool p.required),
      ("description", .str p.node.facets.description), ("schema", Value.record schema)]

end Parameter

namespace Endpoint

/-- The parameters of an endpoint in a document. -/
def describeParameters (registered : String → Bool) (e : Endpoint) : Except Failure Value := do
  let parameters ← e.parameters.get
  let described ← parameters.mapM (Parameter.describe registered)
  return .list (described.map Value.record)

/-- The responses under some keys, each under the code of its key. -/
def describeAll (registered : String → Bool) (described : Entries Int Mapping) :
    List (Value × Standing Response) → Except Failure (Entries Int Mapping)
  | [] => .ok described
  | (key, response) :: rest => do
    let code ← Status.resolve key
    let n ← response.node id
    let response ← Response.describe registered n
    describeAll registered (described.put code response) rest

/-- The responses of an endpoint in a document, by code. -/
def describeResponses (registered : String → Bool) (e : Endpoint) :
    Except Failure (Entries Int Mapping) :=
  e.responses.get.bind (describeAll registered [])

/-- What stands as a request body in a document.  Whether it has to be given is
said by declarations alone. -/
def describeBody (registered : String → Bool) : Standing RequestBody → Except Failure Mapping
  | .declared body => RequestBody.describe registered body
  | .component _ | .value _ => .error .lacking

/-- The operation that an endpoint describes. -/
def describe (registered : String → Bool) (e : Endpoint) : Except Failure Mapping := do
  let parameters ← e.describeParameters registered
  let responses ← e.describeResponses registered
  let body ← e.body.mapM (describeBody registered)
  let codes := responses.map fun r => (Value.int r.1, Value.record r.2)
  return [("parameters", parameters), ("responses", .dict codes)] ++
    (if e.description.isGiven then [("description", e.description)] else []) ++
    (body.map fun b => ("requestBody", Value.record b)).toList

/-- Enter the operations of an endpoint among those of its path. -/
def enterOperations (registered : String → Bool) (e : Endpoint) :
    Entries Value Mapping → List Value → Except Failure (Entries Value Mapping)
  | operations, [] => .ok operations
  | operations, verb :: rest => do
    let operation ← e.describe registered
    if verb.isKey then enterOperations registered e (Value.putKey operations verb operation) rest
    else throw (.misuse .notKey)

end Endpoint

namespace Registry

/-- The operations that are entered under a path. -/
def operationsAt (paths : Entries Value (Entries Value Mapping)) (path : Value) :
    Entries Value Mapping :=
  ((paths.find? (Value.sameKey ·.1 path)).map (·.2)).getD []

/-- Enter the endpoints, first to last, into the operations by path. -/
def enterEndpoints (registered : String → Bool) :
    Entries Value (Entries Value Mapping) → List Endpoint →
      Except Failure (Entries Value (Entries Value Mapping))
  | paths, [] => .ok paths
  | paths, e :: rest =>
    if !e.path.isGiven then enterEndpoints registered paths rest
    else if !e.path.isKey then .error (.misuse .notKey)
    else
      match e.operations.items? with
      | none => .error (.misuse .notItems)
      | some verbs => do
        let operations ← e.enterOperations registered (operationsAt paths e.path) verbs
        enterEndpoints registered (Value.putKey paths e.path operations) rest

/-- The operations by path. -/
def paths (r : Registry) : Except Failure (Entries Value (Entries Value Mapping)) :=
  enterEndpoints r.has [] r.endpoints

/-- The operations of a path as a value. -/
def operationsValue (operations : Entries Value Mapping) : Value :=
  .dict (Entries.mapValues Value.record operations)

/-- The operations by path as a value. -/
def pathsValue (paths : Entries Value (Entries Value Mapping)) : Value :=
  .dict (Entries.mapValues operationsValue paths)

/-- Enter the schemas of components under their names. -/
def enterComponents (registered : String → Bool) :
    Entries String Mapping → List Component → Except Failure (Entries String Mapping)
  | schemas, [] => .ok schemas
  | schemas, c :: rest => do
    let schema ← c.node.schema? registered
    enterComponents registered (schemas.put c.name schema) rest

/-- The schemas of the components by name. -/
def schemas (r : Registry) : Except Failure (Entries String Mapping) :=
  enterComponents r.has [] r.components

/-- The schemas of the components as a value. -/
def schemasValue (schemas : Entries String Mapping) : Value :=
  Value.record (Entries.mapValues Value.record schemas)

/-- The version of the format in which documents are written. -/
def formatVersion : String :=
  "3.0.0"

/-- The document of a registry. -/
def document (r : Registry) (info : DocumentInfo) : Except Failure Value := do
  let paths ← r.paths
  let schemas ← r.schemas
  let value := Value.record [("openapi", .str formatVersion),
    ("info", Value.record info.toMapping), ("paths", pathsValue paths),
    ("components", Value.record [("schemas", schemasValue schemas)])]
  match value.withTextKeys? with
  | some document => return document
  | none => throw (.badValue .tooManyDigits)

/-- A document, or why there is none, and the warnings on the way to it. -/
structure Compilation where
  result : Except Failure Value
  warnings : List LogLine

/-- The warning about a malformed declaration. -/
def warning (problem : String × String) : LogLine :=
  ⟨true, .document, problem.1 ++ ": " ++ problem.2⟩

/-- Compile the document of a registry. -/
def compile (r : Registry) (info : DocumentInfo) (strict : Bool) : Compilation :=
  match r.problems with
  | .error f => ⟨.error f, []⟩
  | .ok problems =>
    if strict && !problems.isEmpty then ⟨.error (.malformed problems), []⟩
    else ⟨r.document info, problems.map warning⟩

end Registry

end ApiContract
