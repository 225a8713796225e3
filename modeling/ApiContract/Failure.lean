import ApiContract.Entries
import ApiContract.Text.ClosestMatch
import ApiContract.Text.Quoted

/-!
# What can go wrong

Every operation of the library fails with a cause.  The words in which a cause
is reported are chosen here and nowhere else: `Failure.report?` gives the text
and the suggestion of the causes that carry one.
-/

namespace ApiContract

/-- Why a piece of given data is refused. -/
inductive Fault where
  | missing
  | notText
  /-- A text that is none of characters. -/
  | unreadableText
  | notList
  | notDictionary
  | notBoolean
  | unreadableBoolean
  | notInteger
  | fractional
  | infinite
  | tooLarge
  /-- Neither a dictionary nor a node of the expected kind. -/
  | notRecord (expected : String)
  | unexpected
  | keyNotText
  | frozen
  | tooManyDigits
  deriving DecidableEq

/-- The message of a fault and, in brackets, its name. -/
def Fault.message : Fault → String
  | .missing => "Field required [missing]"
  | .notText => "Input should be a valid string [string_type]"
  | .unreadableText =>
    "Input should be a valid string, unable to parse raw data as a unicode string [string_unicode]"
  | .notList => "Input should be a valid list [list_type]"
  | .notDictionary => "Input should be a valid dictionary [dict_type]"
  | .notBoolean => "Input should be a valid boolean [bool_type]"
  | .unreadableBoolean =>
    "Input should be a valid boolean, unable to interpret input [bool_parsing]"
  | .notInteger => "Input should be a valid integer [int_type]"
  | .fractional =>
    "Input should be a valid integer, got a number with a fractional part [int_from_float]"
  | .infinite => "Input should be a finite number [finite_number]"
  | .tooLarge =>
    "Unable to parse input string as an integer, exceeded maximum size [int_parsing_size]"
  | .notRecord expected =>
    "Input should be a valid dictionary or instance of " ++ expected ++ " [model_type]"
  | .unexpected => "Extra inputs are not permitted [extra_forbidden]"
  | .keyNotText => "Keys should be strings [invalid_key]"
  | .frozen => "Instance is frozen [frozen_instance]"
  | .tooManyDigits =>
    "Value error, Exceeds the limit (4300 digits) for integer string conversion; " ++
      "use sys.set_int_max_str_digits() to increase the limit [value_error]"

/-- A fault and the place in the given data where it was found. -/
structure Problem where
  path : List String
  fault : Fault
  deriving DecidableEq

namespace Problem

/-- The place and the message of a problem. -/
def line (p : Problem) : String :=
  String.intercalate "." p.path ++ ": " ++ p.fault.message

/-- A problem seen from one step further out. -/
def within (part : String) (p : Problem) : Problem :=
  ⟨part :: p.path, p.fault⟩

end Problem

/-- Why a call cannot be made at all. -/
inductive Misuse where
  /-- A name is given both by position and as an option. -/
  | givenTwice (name : String)
  /-- A list, a dictionary or a component is used as a key. -/
  | notKey
  /-- A value cannot be gone through item by item. -/
  | notItems
  /-- A module is named from an unknown place. -/
  | relativeModule
  /-- A value has no form in the document's format. -/
  | notSerialisable
  /-- A value cannot be called as it is. -/
  | notCallable
  /-- Nothing can be stored in a value under a key. -/
  | notStore
  deriving DecidableEq

/-- Why a value is outside what a call accepts. -/
inductive BadValue where
  | tooManyDigits
  /-- The digits of a text do not make a decimal number. -/
  | notDecimal
  /-- An item that should be a pair has another length. -/
  | notPair
  | emptyModuleName
  | unknownField (name : String)
  /-- The name of a model holds the null character. -/
  | nullInName
  /-- A path holds the null character. -/
  | nullInPath
  /-- A text that is none of characters is to be printed or written to a file. -/
  | notEncodable
  deriving DecidableEq

/-- Why a target does not lead to a registry. -/
inductive LoadFault where
  | missingFile (path : String)
  | unloadableFile (path : String)
  /-- The first part of a module's name that does not exist, and the module
  before it that holds no other modules, if there is one. -/
  | missingModule (moduleName missing : String) (parent : Option String)
  /-- A module needs something that cannot be imported, for a reason. -/
  | brokenModule (moduleName reason : String)
  | missingMember (moduleName member : String)
  | notRegistry (target kind : String)
  deriving DecidableEq

/-- Why an operation fails. -/
inductive Failure where
  /-- Given data are refused, for every problem listed. -/
  | invalid (problems : List Problem)
  /-- A response is keyed by a text that names no status. -/
  | unknownStatus (status : String) (known : List String)
  /-- A column has a type without a counterpart. -/
  | unknownColumnType (sqlType : String) (column : Option String)
  /-- Declarations are malformed, at the places listed. -/
  | malformed (problems : Entries String String)
  | notLoaded (fault : LoadFault)
  | misuse (cause : Misuse)
  | badValue (cause : BadValue)
  /-- A value has no form in the second format of documents. -/
  | notRepresentable
  /-- Nothing is declared under a number. -/
  | nothingThere
  /-- Nothing is declared under a name. -/
  | nameMissing (name : String)
  /-- A value that was put where a declaration should be lacks what is asked of
  it. -/
  | lacking
  /-- Too many lists and dictionaries stand in each other. -/
  | tooDeep
  /-- A name on a path is longer than any name of a file. -/
  | nameTooLong
  /-- Something that is needed cannot be imported, for a reason. -/
  | notImported (reason : String)
  /-- The code of a module or of a file fails, or the system, with an error of some other
  kind: not a request to end the program, nor what the command line reports by itself. -/
  | raised (kind : String)
  deriving DecidableEq

/-- A message, and what may mend its cause. -/
structure Report where
  text : String
  suggestion : Option String
  deriving DecidableEq

/-- A report on one line; an empty suggestion is left out. -/
def Report.line (r : Report) : String :=
  match r.suggestion with
  | none | some "" => r.text
  | some s => r.text ++ " | Suggestion: " ++ s

/-- The report of a target that does not lead to a registry. -/
def LoadFault.report : LoadFault → Report
  | .missingFile path => ⟨"No such file: " ++ path, none⟩
  | .unloadableFile path => ⟨"Cannot import " ++ path, none⟩
  | .missingModule moduleName missing parent =>
    let reason := "No module named " ++ Text.quoted missing
    let detail :=
      match parent with
      | none => ""
      | some p => "; " ++ Text.quoted p ++ " is not a package"
    ⟨"Cannot import module '" ++ moduleName ++ "': " ++ reason ++ detail, none⟩
  | .brokenModule moduleName reason =>
    ⟨"Cannot import module '" ++ moduleName ++ "': " ++ reason, none⟩
  | .missingMember moduleName member =>
    ⟨"'" ++ moduleName ++ "' has no attribute '" ++ member ++ "'",
      some ("point at the Registry explicitly, e.g. " ++ moduleName ++ ":my_registry")⟩
  | .notRegistry target kind => ⟨"'" ++ target ++ "' is " ++ kind ++ ", not a Registry", none⟩

/-- The suggestion for a text that names no status. -/
def statusSuggestion (status : String) (known : List String) : Option String :=
  (Text.closest? known status).map fun word => "did you mean '" ++ word ++ "'?"

namespace Failure

/-- The report of a failure about declarations or targets; the others have
none. -/
def report? : Failure → Option Report
  | .unknownStatus status known =>
    some ⟨"Unknown status code symbol: " ++ status, statusSuggestion status known⟩
  | .unknownColumnType sqlType column =>
    let place :=
      match column with
      | none | some "" => ""
      | some c => " (column '" ++ c ++ "')"
    some ⟨"Unknown sql type: " ++ sqlType ++ place, none⟩
  | .malformed problems =>
    let lines := problems.map fun p => p.1 ++ ": " ++ p.2
    some ⟨toString problems.length ++ " malformed declaration(s):\n" ++
        String.intercalate "\n" lines,
      some "run \x60openapi-declare check\x60 for the full report"⟩
  | .notLoaded fault => some fault.report
  | .invalid _ | .misuse _ | .badValue _ | .notRepresentable | .nothingThere | .nameMissing _
  | .lacking | .tooDeep | .nameTooLong | .notImported _ | .raised _ => none

/-- The message of a failure: its report, or a line for every problem. -/
def message? : Failure → Option String
  | .invalid problems => some (String.intercalate "\n" (problems.map Problem.line))
  | f => f.report?.map Report.line

end Failure

end ApiContract
