import ApiContract.Registry.Basic

/-!
# Filling in an endpoint

An endpoint is filled in by edits.  Each edit leaves an endpoint behind, also
when it fails: what was done before the failure stays.  A request body, a
response and a component are stored before their properties are declared; a
parameter whose properties are given while it is being declared is appended
only when all of them are accepted.
-/

namespace ApiContract

/-- A step in filling in an endpoint. -/
inductive Edit where
  | setPath (path : Value)
  | setDescription (description : Value)
  | addOperations (verbs : List Value)
  | addParameter (name : Value) (spec : NodeSpec)
  | setRequestBody (spec : NodeSpec)
  | addResponse (status : Value) (spec : NodeSpec)
  | exceptionError (status description : Option Value)

/-- A declared thing, as it is shown to whoever declared it. -/
inductive Declared where
  | endpoint (e : Endpoint)
  | component (c : Component)
  | parameter (p : Parameter)
  | slot (s : Slot Node)
  | node (n : Node)

namespace NodeSpec

/-- A spec without properties. -/
def leaf (options : Entries String Value) : NodeSpec :=
  .mk (Options.ofEntries options) false []

end NodeSpec

/-- What was declared, unless something stopped it. -/
def answerUnless {α : Type} (failure : Option Failure) (a : α) : Except Failure α :=
  match failure with
  | none => .ok a
  | some f => .error f

namespace Endpoint

/-- Add a verb at the end of operations unless it stands there.  Only lists can be
added to. -/
def addVerb (verb : String) (operations : Value) : Except Failure Value :=
  match operations.holds? verb, operations with
  | some true, _ => .ok operations
  | some false, .list verbs => .ok (.list (verbs ++ [.str verb]))
  | some false, _ => .error .lacking
  | none, _ => .error (.misuse .notItems)

/-- Add verbs in small letters, each once, up to one that has no text or cannot be
added. -/
def addVerbs (operations : Value) : List Value → Value × Option Failure
  | [] => (operations, none)
  | verb :: rest =>
    match verb.shown.bind fun text => addVerb (Text.lower text) operations with
    | .error f => (operations, some f)
    | .ok operations => addVerbs operations rest

/-- Declare a parameter.  What is called with it is called before it is
appended. -/
def addParameter (e : Endpoint) (name : Value) (spec : NodeSpec) :
    Endpoint × Except Failure Parameter :=
  let checked := do
    let own ← spec.own ["name"]
    let parameters ← e.parameters.get
    let p ← (Parameter.ofOptions ((.str "name", name) :: own)).toExcept
    return (parameters, p)
  match checked with
  | .error f => (e, .error f)
  | .ok (parameters, p) =>
    let (node, failure) := spec.declareOn p.node
    let p := { p with node := node }
    let dropped := failure.isSome && (spec.inside || spec.options.callFault?.isSome)
    (if dropped then e else { e with parameters := .declared (parameters ++ [p]) },
      answerUnless failure p)

/-- Declare the request body, in place of the one declared before. -/
def setRequestBody (e : Endpoint) (spec : NodeSpec) : Endpoint × Except Failure RequestBody :=
  let checked := (spec.own []).bind fun own => (RequestBody.ofOptions own).toExcept
  match checked with
  | .error f => (e, .error f)
  | .ok slot =>
    let (node, failure) := spec.declareOn slot.content
    let body : RequestBody := ⟨slot.required, node⟩
    ({ e with body := some (.declared body) }, answerUnless failure body)

/-- The number that a value is as the place of an item in a list. -/
def placeNumber? : Value → Option Int
  | .int n => some n
  | .bool b => some b.toNat
  | _ => none

/-- Why nothing can be stored under a key in a value that was assigned.  A list
takes what replaces one of its items, counted from either end. -/
def storeFault? (key : Value) : Value → Option Failure
  | .list vs =>
    match placeNumber? key with
    | none => some (.misuse .notStore)
    | some n => if -vs.length ≤ n && n < vs.length then none else some .nothingThere
  | _ => some (.misuse .notStore)

/-- The responses with a node stored under a key.  What a list that was assigned
takes is never looked at again. -/
def storeResponse (responses : Held (List (Value × Standing Response))) (key : Value)
    (n : Response) : Except Failure (Held (List (Value × Standing Response))) :=
  match responses with
  | .declared entries =>
    if key.isKey then .ok (.declared (Value.putKey entries key (.declared n)))
    else .error (.misuse .notKey)
  | .assigned v =>
    match storeFault? key v with
    | none => .ok (.assigned v)
    | some f => .error f

/-- Declare the response for a status, in place of one declared before for the
same. -/
def addResponse (e : Endpoint) (status : Value) (spec : NodeSpec) :
    Endpoint × Except Failure Response :=
  let checked := do
    let own ← spec.own ["status"]
    let n ← (Response.ofOptions own).toExcept
    let (node, failure) := spec.declareOn n
    return (node, failure, ← storeResponse e.responses status node)
  match checked with
  | .error f => (e, .error f)
  | .ok (node, failure, responses) =>
    ({ e with responses := responses }, answerUnless failure node)

/-- The standard answer to data that do not pass validation. -/
def errorSpec (description : Value) : NodeSpec :=
  .mk (Options.ofEntries [("type", .str "object"), ("description", description)]) false [
    (.str "status",
      .leaf [("type", .str "string"), ("description", .str "Status of the request")]),
    (.str "error_message",
      .leaf [("type", .str "string"), ("description", .str "Error message")]),
    (.str "errors", .leaf [("type", .str "object"), ("description", .str "Validation errors")])]

/-- Do one edit. -/
def edit (e : Endpoint) : Edit → Endpoint × Except Failure Declared
  | .setPath path =>
    let e := { e with path := path }
    (e, .ok (.endpoint e))
  | .setDescription description =>
    let e := { e with description := description }
    (e, .ok (.endpoint e))
  | .addOperations verbs =>
    let (operations, failure) := addVerbs e.operations verbs
    let e := { e with operations := operations }
    (e, answerUnless failure (.endpoint e))
  | .addParameter name spec =>
    let (e, answer) := e.addParameter name spec
    (e, answer.map .parameter)
  | .setRequestBody spec =>
    let (e, answer) := e.setRequestBody spec
    (e, answer.map .slot)
  | .addResponse status spec =>
    let (e, answer) := e.addResponse status spec
    (e, answer.map .node)
  | .exceptionError status description =>
    let (e, answer) := e.addResponse (status.getD (.str "unprocessable_entity"))
      (errorSpec (description.getD (.str "Validation error")))
    (e, answer.map .node)

/-- Do edits, first to last, up to the first that fails. -/
def configure (e : Endpoint) : List Edit → Endpoint × Option Failure
  | [] => (e, none)
  | edit :: rest =>
    match e.edit edit with
    | (e, .ok _) => configure e rest
    | (e, .error f) => (e, some f)

end Endpoint

end ApiContract
