import ApiContract.Failure
import ApiContract.Value.Display

/-!
# Checking given data

Data that a declaration or a setting is made of are checked as a whole: every
problem is reported, in the order of the fields and at its place.  A `Checked`
value is either what the data mean or the list of all problems, and combining
two of them keeps the problems of both.
-/

namespace ApiContract

/-- The outcome of checking given data. -/
inductive Checked (α : Type) where
  | valid (a : α)
  | refused (problems : List Problem)
  deriving DecidableEq

namespace Checked

variable {α β : Type}

/-- Apply a function to valid data. -/
def map (f : α → β) : Checked α → Checked β
  | .valid a => .valid (f a)
  | .refused ps => .refused ps

/-- Apply a checked function to checked data, keeping the problems of both. -/
def seq : Checked (α → β) → Checked α → Checked β
  | .valid f, .valid a => .valid (f a)
  | .valid _, .refused ps => .refused ps
  | .refused ps, .valid _ => .refused ps
  | .refused ps, .refused qs => .refused (ps ++ qs)

instance : Applicative Checked where
  map := Checked.map
  pure := .valid
  seq f a := f.seq (a ())

/-- Data that are refused for one fault. -/
def fault (f : Fault) : Checked α :=
  .refused [⟨[], f⟩]

/-- The outcome seen from one step further out. -/
def within (part : String) : Checked α → Checked α
  | .valid a => .valid a
  | .refused ps => .refused (ps.map (Problem.within part))

/-- Data are refused if there are further problems. -/
def refusing (problems : List Problem) : Checked α → Checked α
  | .valid a => if problems.isEmpty then .valid a else .refused problems
  | .refused ps => .refused (ps ++ problems)

/-- Check every item of a list, each at its number. -/
def items (check : Value → Checked α) : Nat → List Value → Checked (List α)
  | _, [] => .valid []
  | n, v :: vs => List.cons <$> (check v).within (toString n) <*> items check (n + 1) vs

/-- The outcome as a failure. -/
def toExcept : Checked α → Except Failure α
  | .valid a => .ok a
  | .refused ps => .error (.invalid ps)

end Checked

namespace Value

/-! ### Reading single values -/

/-- A text, whether or not it is one of characters. -/
def checkString : Value → Checked Value
  | .unpaired codes => .valid (.unpaired codes)
  | v =>
    match v.text? with
    | some s => .valid (.str s)
    | none => .fault .notText

/-- A text in characters, or in quotes if it is none of characters. -/
def checkText : Value → Checked String
  | .unpaired codes => .valid (Text.quotedCodes codes)
  | v =>
    match v.text? with
    | some s => .valid s
    | none => .fault .notText

/-- The text that a value displays as, or the failure of one that has none. -/
def shown (v : Value) : Except Failure String :=
  match v.display? with
  | some text => .ok text
  | none => .error (.badValue .tooManyDigits)

/-- The text that a value displays as, as given data. -/
def checkShown (v : Value) : Checked String :=
  match v.display? with
  | some s => .valid s
  | none => .fault .tooManyDigits

/-- A list, or null for none. -/
def checkList? : Value → Checked (Option (List Value))
  | .null => .valid none
  | v =>
    match v.listed? with
    | some vs => .valid (some vs)
    | none => .fault .notList

/-- The texts that read as true or false, in any case of their letters. -/
def flagOfText? (s : String) : Option Bool :=
  let name := String.ofList (s.toList.map Char.toLower)
  if ["0", "off", "f", "false", "n", "no"].contains name then some false
  else if ["1", "on", "t", "true", "y", "yes"].contains name then some true
  else none

/-- Whether a whole number fits into 64 bits with a sign. -/
def fitsWord (n : Int) : Bool :=
  -Int.pow 2 63 ≤ n && n < Int.pow 2 63

/-- Read a boolean: one by value, by the numbers zero and one, or by name. -/
def readFlag : Value → Except Fault Bool
  | .bool b => .ok b
  | .int n =>
    if n == 0 then .ok false
    else if n == 1 then .ok true
    else if fitsWord n then .error .unreadableBoolean
    else .error .notBoolean
  | .float x =>
    if x.sameInt 0 then .ok false else if x.sameInt 1 then .ok true else .error .notBoolean
  | .unpaired _ => .error .unreadableText
  | v =>
    match v.text? with
    | none => .error .notBoolean
    | some s =>
      match flagOfText? s with
      | some b => .ok b
      | none => .error .unreadableBoolean

/-- A boolean, read as `readFlag` reads it. -/
def checkFlag (v : Value) : Checked Bool :=
  match readFlag v with
  | .ok b => .valid b
  | .error f => .fault f

/-- A key as a step of a path: whole numbers by their digits, booleans as the
numbers they are, anything else as it is displayed in a list. -/
def pathPart : Value → String
  | .str s => s
  | .tag t => t.text
  | .bool b => if b then "1" else "0"
  | v => v.quoted?.getD ""

end Value

/-- Options by name, in the order in which they are given. -/
abbrev Options := List (Value × Value)

namespace Options

variable {α : Type}

/-- Options whose names are texts. -/
def ofEntries (entries : Entries String Value) : Options :=
  entries.map fun e => (.str e.1, e.2)

/-- The value of an option. -/
def get? (options : Options) (name : String) : Option Value :=
  (options.find? (·.1.text? == some name)).map (·.2)

/-- Check an option that may be left out. -/
def optional (options : Options) (name : String) (default : α) (check : Value → Checked α) :
    Checked α :=
  match get? options name with
  | some v => (check v).within name
  | none => .valid default

/-- Check an option that has to be given. -/
def mandatory (options : Options) (name : String) (check : Value → Checked α) : Checked α :=
  match get? options name with
  | some v => (check v).within name
  | none => .refused [⟨[name], .missing⟩]

/-- The spelling under which an option with a second spelling is given. -/
def spelling (options : Options) (name second : String) : String :=
  if (get? options name).isNone && (get? options second).isSome then second else name

/-- The problems of the options that are not among the known ones. -/
def unknown (known : List String) (options : Options) : List Problem :=
  options.filterMap fun option =>
    match option.1.text? with
    | some name => if known.contains name then none else some ⟨[name], .unexpected⟩
    | none => some ⟨[option.1.pathPart], .keyNotText⟩

end Options

end ApiContract
