import ApiContract.Schema.Node
import ApiContract.Validator.Coercion
import ApiContract.Validator.ErrorTree

/-!
# Checking data against declared fields

Fields are checked in order of declaration, each against what the data hold
under its name.  A field that is missing is an error only if it is required; a
field that is present is taken by its rule, or refused.  What the data hold
under other names is dropped.  An object with properties is checked field by
field in turn; other objects, references and lists are taken as they are.
-/

namespace ApiContract

/-- How the value of a field is taken. -/
inductive FieldRule where
  /-- A dictionary whose own fields are checked. -/
  | record
  | list
  | dictionary
  | anything
  | scalar (kind : ScalarKind)
  deriving DecidableEq

/-- The rule of a field with some facets, and with or without properties. -/
def Facets.rule (f : Facets) (hasProperties : Bool) : FieldRule :=
  match f.shape with
  | .object => if hasProperties then .record else .dictionary
  | .array => .list
  | .reference => if f.type = .named "array" then .list else .dictionary
  | .union => .anything
  | .scalar => .scalar (.of f.type)

/-- Whether null is taken for a field: scalars other than texts may be null when
they are not required. -/
def ScalarKind.takesNull (kind : ScalarKind) (required : Bool) : Bool :=
  !required && kind != .text

/-- What is wrong with data, and where. -/
structure DataProblem where
  path : List String
  fault : DataFault
  deriving DecidableEq

/-- The problem seen from one step further out. -/
def DataProblem.within (step : String) (p : DataProblem) : DataProblem :=
  ⟨step :: p.path, p.fault⟩

namespace Value

mutual

/-- A value as data hand it out: a component becomes a dictionary of what is said
of it. -/
def handedOut : Value → Value
  | .list vs => .list (handedOutItems vs)
  | .dict es => .dict (handedOutEntries es)
  | .component name => record [("type", .str "object"), ("name", .str name)]
  | v => v

/-- The items of a list as data hand them out. -/
def handedOutItems : List Value → List Value
  | [] => []
  | v :: vs => handedOut v :: handedOutItems vs

/-- The entries of a dictionary as data hand them out. -/
def handedOutEntries : List (Value × Value) → List (Value × Value)
  | [] => []
  | (k, v) :: es => (k, handedOut v) :: handedOutEntries es

end

/-- The value that a dictionary holds under a text. -/
def lookup? (entries : List (Value × Value)) (name : String) : Option Value :=
  (entries.find? (·.1.text? == some name)).map (·.2)

/-- What is wrong with a key of a dictionary that is taken as it is. -/
def keyProblem? (key : Value) : Option DataProblem :=
  match key.toText with
  | .ok _ => none
  | .error f => some ⟨[key.pathPart, "[key]"], f⟩

/-- A key of a dictionary that is taken as it is. -/
def takenKey (key : Value) : Value :=
  (key.toText.toOption).getD key

/-- Take a dictionary with texts for keys as it is. -/
def toDictionary : Value → Except (List DataProblem) Value
  | .dict es =>
    let problems := es.filterMap fun e => e.1.keyProblem?
    if problems.isEmpty then .ok (dictOf (es.map fun e => (e.1.takenKey, e.2.handedOut)))
    else .error problems
  | _ => .error [⟨[], .notDictionary⟩]

/-- Take a list as it is. -/
def toList (v : Value) : Except (List DataProblem) Value :=
  match v.listed? with
  | some vs => .ok (.list (handedOutItems vs))
  | none => .error [⟨[], .notList⟩]

end Value

/-- Take a value for a scalar field. -/
def ScalarKind.take (numbers : NumberKind) (required : Bool) (v : Value) (kind : ScalarKind) :
    Except (List DataProblem) Value :=
  if kind.takesNull required && v == .null then .ok .null
  else
    match kind.coerce numbers v with
    | .ok w => .ok w
    | .error f => .error [⟨[], f⟩]

/-- What checking fields gives: the data that are taken, and all problems. -/
structure Taken where
  data : Entries String Value
  problems : List DataProblem

namespace Taken

/-- The data, or the problems if there are any. -/
def toExcept (t : Taken) : Except (List DataProblem) Value :=
  if t.problems.isEmpty then .ok (Value.record t.data) else .error t.problems

/-- One more field before those that are checked. -/
def cons (name : String) (field : Option (Except (List DataProblem) Value)) (t : Taken) : Taken :=
  match field with
  | none => t
  | some (.ok v) => ⟨(name, v) :: t.data, t.problems⟩
  | some (.error ps) => ⟨t.data, ps.map (·.within name) ++ t.problems⟩

end Taken

namespace Node

mutual

/-- Take a value for a node.  `model` names the field in messages. -/
def take (numbers : NumberKind) (model : String) (required : Bool) (v : Value) :
    Node → Except (List DataProblem) Value
  | .mk f ps =>
    match f.rule (!ps.isEmpty) with
    | .record =>
      match v with
      | .dict es => (takeFields numbers model es ps).toExcept
      | _ => .error [⟨[], .notRecord model⟩]
    | .list => v.toList
    | .dictionary => v.toDictionary
    | .anything => .ok v.handedOut
    | .scalar kind => kind.take numbers required v

/-- Check the entries of a dictionary against fields. -/
def takeFields (numbers : NumberKind) (model : String) (entries : List (Value × Value)) :
    List (String × Slot Node) → Taken
  | [] => ⟨[], []⟩
  | (name, ⟨required, n⟩) :: rest =>
    let field :=
      match Value.lookup? entries name with
      | none => if required then some (.error [⟨[], .missing⟩]) else none
      | some v => some (take numbers (model ++ "_" ++ name) required v n)
    (takeFields numbers model entries rest).cons name field

end

end Node

end ApiContract
