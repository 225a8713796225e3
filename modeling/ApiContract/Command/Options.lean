import ApiContract.Text.ClosestMatch
import ApiContract.Text.Quoted

/-!
# Options on a command line

Arguments are read from left to right.  A long option is one argument, with its
value after an equals sign or in the next argument; short options may stand
together, the last of them with its value.  Two dashes end the options.
Everything else is an argument, and where options may not follow arguments, the
first of these ends the options as well.
-/

namespace ApiContract

/-- The options of the program and its commands. -/
inductive OptionName where
  | verbose | help | output | format | title | description | version | strict | path | method
  | data
  deriving DecidableEq

/-- Whether an option has a value. -/
def OptionName.takesValue : OptionName → Bool
  | .verbose | .help | .strict => false
  | .output | .format | .title | .description | .version | .path | .method | .data => true

/-- The options that can be given at some place, by their spellings. -/
abbrev OptionTable := List (String × OptionName)

/-- Why options cannot be read. -/
inductive OptionFault where
  /-- No option is spelled so; some spellings are close. -/
  | unknown (spelling : String) (close : List String)
  | valueMissing (spelling : String)
  | valueGiven (spelling : String)
  deriving DecidableEq

/-- How many spellings that are close to a wrong one are suggested. -/
def suggestionLimit : Nat := 3

/-- The suggestion of spellings in place of a wrong one, in order of their
characters. -/
def suggestion (spellings : List String) : String :=
  match spellings.mergeSort fun s t => decide (s ≤ t) with
  | [] => ""
  | [spelling] => " Did you mean " ++ Text.quoted spelling ++ "?"
  | sorted =>
    " (Did you mean one of: " ++ String.intercalate ", " (sorted.map Text.quoted) ++ "?)"

/-- The message of a fault. -/
def OptionFault.message : OptionFault → String
  | .unknown spelling close =>
    "No such option " ++ Text.quoted spelling ++ "." ++ suggestion close
  | .valueMissing spelling => "Option " ++ Text.quoted spelling ++ " requires an argument."
  | .valueGiven spelling => "Option " ++ Text.quoted spelling ++ " does not take a value."

/-- An option that is given, with its value; a flag has an empty one. -/
structure Setting where
  name : OptionName
  value : String
  deriving DecidableEq

/-- An option whose value is still to come, and how it is spelled. -/
structure Awaited where
  name : OptionName
  spelling : String

/-- What one argument gives: options with their values, and maybe one whose value
is the next argument. -/
structure Reading where
  settings : List Setting
  awaited : Option Awaited

namespace OptionTable

/-- Read a long option. -/
def readLong (name : OptionName) (spelling : String) (value : Option String) :
    Except OptionFault Reading :=
  match name.takesValue, value with
  | true, some v => .ok ⟨[⟨name, v⟩], none⟩
  | true, none => .ok ⟨[], some ⟨name, spelling⟩⟩
  | false, some _ => .error (.valueGiven spelling)
  | false, none => .ok ⟨[⟨name, ""⟩], none⟩

/-- Read short options that stand together. -/
def readShort (table : OptionTable) : List Char → Except OptionFault Reading
  | [] => .ok ⟨[], none⟩
  | c :: rest =>
    let spelling := String.ofList ['-', c]
    match table.lookup spelling with
    | none => .error (.unknown spelling [])
    | some name =>
      if !name.takesValue then
        (readShort table rest).map fun r => ⟨⟨name, ""⟩ :: r.settings, r.awaited⟩
      else if rest.isEmpty then .ok ⟨[], some ⟨name, spelling⟩⟩
      else .ok ⟨[⟨name, String.ofList rest⟩], none⟩

/-- A long option apart from its value. -/
def splitValue (cs : List Char) : String × Option String :=
  match cs.span (· != '=') with
  | (name, _ :: value) => (String.ofList name, some (String.ofList value))
  | (name, []) => (String.ofList name, none)

/-- Whether a spelling is that of a long option. -/
def isLong : List Char → Bool
  | '-' :: '-' :: _ => true
  | _ => false

/-- The long option of a spelling. -/
def long? (table : OptionTable) (spelling : String) : Option OptionName :=
  if isLong spelling.toList then table.lookup spelling else none

/-- The spellings of the long options. -/
def longSpellings (table : OptionTable) : List String :=
  (table.map (·.1)).filter fun spelling => isLong spelling.toList

/-- The fault of a spelling that is no long option. -/
def unknownLong (table : OptionTable) (spelling : String) : OptionFault :=
  .unknown spelling (Text.closest suggestionLimit table.longSpellings spelling)

/-- Read an argument that starts with a dash. -/
def readArgument (table : OptionTable) (cs : List Char) : Except OptionFault Reading :=
  let (spelling, value) := splitValue cs
  match table.long? spelling with
  | some name => readLong name spelling value
  | none => if isLong cs then .error (table.unknownLong spelling) else table.readShort (cs.drop 1)

/-- Whether an argument is one of options. -/
def isOption (cs : List Char) : Bool :=
  cs.head? == some '-' && cs.length > 1

/-- Read arguments: the options that are given, and the other arguments.
`mixed` says whether options may follow arguments. -/
def scan (table : OptionTable) (mixed : Bool) :
    Option Awaited → List String → Except OptionFault (List Setting × List String)
  | none, [] => .ok ([], [])
  | some awaited, [] => .error (.valueMissing awaited.spelling)
  | some awaited, value :: rest =>
    (scan table mixed none rest).map fun (settings, arguments) =>
      (⟨awaited.name, value⟩ :: settings, arguments)
  | none, argument :: rest =>
    if argument == "--" then .ok ([], rest)
    else if isOption argument.toList then
      (table.readArgument argument.toList).bind fun reading =>
        (scan table mixed reading.awaited rest).map fun (settings, arguments) =>
          (reading.settings ++ settings, arguments)
    else if mixed then
      (scan table mixed none rest).map fun (settings, arguments) =>
        (settings, argument :: arguments)
    else .ok ([], argument :: rest)

end OptionTable

namespace Setting

/-- Whether an option is given. -/
def given (settings : List Setting) (name : OptionName) : Bool :=
  settings.any (·.name == name)

/-- The value of an option, the last one if it is given more than once. -/
def value? (settings : List Setting) (name : OptionName) : Option String :=
  (settings.reverse.find? (·.name == name)).map (·.value)

end Setting

end ApiContract
