import ApiContract.Registry.Basic

/-!
# Endpoints from options

An endpoint may be given whole: its path, description and operations as texts,
and its parameters, request body and responses as nested options.  Options of
other names are passed over.
-/

namespace ApiContract

namespace Value

/-- Read something from a dictionary of options. -/
def checkRecord {α : Type} (expected : String) (read : Options → Checked α) :
    Value → Checked α
  | .dict options => read options
  | _ => .fault (.notRecord expected)

/-- A list, every item of which is checked. -/
def checkItems {α : Type} (check : Value → Checked α) (v : Value) : Checked (List α) :=
  match v.listed? with
  | some vs => Checked.items check 0 vs
  | none => .fault .notList

/-- A double that is taken for a whole number. -/
def checkWhole (x : Binary64) : Checked Int :=
  match x.toWhole with
  | .ok n => .valid n
  | .error .infinite => .fault .infinite
  | .error .fractional => .fault .fractional
  | .error .tooLarge => .fault .tooLarge

/-- A whole number. -/
def checkInt : Value → Checked Int
  | .int n => .valid n
  | .bool b => .valid b.toNat
  | .float x => checkWhole x
  | _ => .fault .notInteger

/-- The key of a response: a text, or else a whole number.  What is neither is
refused as both. -/
def checkStatus (v : Value) : Checked Value :=
  match v.checkString, v.checkInt with
  | .valid text, _ => .valid text
  | _, .valid n => .valid (.int n)
  | text, number =>
    (((fun _ _ => v) <$> number.within "int" <*> text.within "str").within "[key]").within
      v.pathPart

end Value

namespace Endpoint

/-- A path, or null for none. -/
def checkPath : Value → Checked Value
  | .null => .valid .null
  | v => v.checkString

/-- Operations: a list of texts. -/
def checkOperations (v : Value) : Checked Value :=
  .list <$> v.checkItems Value.checkString

/-- Read parameters from options. -/
def checkParameters (options : Options) : Checked (List Parameter) :=
  options.optional "parameters" []
    (Value.checkItems (Value.checkRecord "Parameter" Parameter.ofOptions))

/-- Read a request body, or null for none. -/
def checkBody : Value → Checked (Option RequestBody)
  | .null => .valid none
  | v => some <$> v.checkRecord "RequestBody" RequestBody.ofOptions

/-- Read responses from the entries of a dictionary. -/
def checkResponses : List (Value × Value) → Checked (List (Value × Response))
  | [] => .valid []
  | (key, v) :: rest =>
    (fun status response more => (status, response) :: more) <$> key.checkStatus
      <*> (v.checkRecord "Response" Response.ofOptions).within key.pathPart
      <*> checkResponses rest

/-- Read responses from a dictionary by status. -/
def responsesOfValue : Value → Checked (List (Value × Response))
  | .dict entries =>
    (fun responses => responses.foldl (fun es e => Value.putKey es e.1 e.2) []) <$>
      checkResponses entries
  | _ => .fault .notDictionary

/-- Read an endpoint. -/
def ofOptions (options : Options) : Checked Endpoint :=
  Endpoint.mk
    <$> options.optional "path" .null checkPath
    <*> options.optional "description" (.str "") Value.checkString
    <*> options.optional "operations" (.list []) checkOperations
    <*> options.optional "parameters" (.declared [])
      (fun v => .declared <$> v.checkRecord "Parameters" checkParameters)
    <*> options.optional "request_body" none (fun v => Option.map .declared <$> checkBody v)
    <*> options.optional "responses" (.declared [])
      (fun v => (fun responses => .declared (responses.map fun r => (r.1, .declared r.2))) <$>
        responsesOfValue v)

end Endpoint

end ApiContract
