import ApiContract.Command.Options
import ApiContract.Document.Text
import ApiContract.Workspace.Path

/-!
# Commands

The program has three commands, each for a target: to generate the document of
a registry, to check its declarations, and to validate data against one of its
endpoints.  Arguments that do not make a command are refused with a cause.
-/

namespace ApiContract

/-- The names of the commands. -/
inductive CommandName where
  | generate | check | validate
  deriving DecidableEq

namespace CommandName

/-- The name as it is typed. -/
def text : CommandName → String
  | .generate => "generate"
  | .check => "check"
  | .validate => "validate"

/-- The names of all commands. -/
def texts : List String :=
  [generate, check, validate].map text

/-- The command of a name. -/
def ofText? (s : String) : Option CommandName :=
  [generate, check, validate].find? (·.text == s)

theorem ofText?_text (name : CommandName) : ofText? name.text = some name := by
  cases name <;> decide +kernel

/-- The options of a command. -/
def options : CommandName → OptionTable
  | .generate => [("-o", .output), ("--output", .output), ("--format", .format),
      ("--title", .title), ("--description", .description), ("--api-version", .version),
      ("--strict", .strict), ("--help", .help)]
  | .check => [("--help", .help)]
  | .validate => [("--path", .path), ("--method", .method), ("--data", .data), ("--help", .help)]

end CommandName

/-- A command. -/
inductive Command where
  | generate (target : String) (output : Option FilePath) (format : Format)
      (title description version : Option String) (strict : Bool)
  | check (target : String)
  | validate (target path method data : String)
  /-- Show how the program, or one of its commands, is used. -/
  | help (name : Option CommandName)
  deriving DecidableEq

/-- Why arguments do not make a command, or a command cannot use one. -/
inductive UsageFault where
  | missingCommand
  /-- No command has the name; some names are close. -/
  | unknownCommand (name : String) (close : List String)
  | option (fault : OptionFault)
  | missingTarget
  | missingPath
  | unexpected (arguments : List String)
  | unknownFormat (name : String)
  /-- The data are not JSON, for a reason. -/
  | unreadableData (reason : String)
  /-- The data are JSON, but no object. -/
  | noObject
  deriving DecidableEq

namespace UsageFault

/-- The message of a fault. -/
def message : UsageFault → String
  | .missingCommand => "Missing command."
  | .unknownCommand name close =>
    "No such command " ++ Text.quoted name ++ "." ++ suggestion close
  | .option fault => fault.message
  | .missingTarget => "Missing argument 'TARGET'."
  | .missingPath => "Missing option '--path'."
  | .unexpected arguments =>
    "Got unexpected extra argument" ++ (if arguments.length == 1 then "" else "s") ++ " (" ++
      String.intercalate " " arguments ++ ")"
  | .unknownFormat name =>
    "Invalid value for '--format': " ++ Text.quoted name ++ " is not one of 'json', 'yaml'."
  | .unreadableData reason => "Invalid value for --data: not valid JSON: " ++ reason
  | .noObject => "Invalid value for --data: must be a JSON object"

/-- Whether the fault is reported with a reminder of how the command is used. -/
def remindsOfUsage : UsageFault → Bool
  | .option (.valueMissing _) | .option (.valueGiven _) => false
  | _ => true

end UsageFault

/-- The name of the program. -/
def programName : String :=
  "openapi-declare"

/-- How the program, or one of its commands, is used. -/
def usageLine : Option CommandName → String
  | none => "Usage: " ++ programName ++ " [OPTIONS] COMMAND [ARGS]...\n"
  | some name => "Usage: " ++ programName ++ " " ++ name.text ++ " [OPTIONS] TARGET\n"

/-- The arguments that show more about the use of the program or a command. -/
def helpLine : Option CommandName → String
  | none => "Try '" ++ programName ++ " --help' for help.\n"
  | some name => "Try '" ++ programName ++ " " ++ name.text ++ " --help' for help.\n"

/-- A fault, and the command whose arguments have it, if it is known by then. -/
structure UsageError where
  command : Option CommandName
  fault : UsageFault
  deriving DecidableEq

/-- The report of a fault. -/
def UsageError.report (e : UsageError) : String :=
  (if e.fault.remindsOfUsage then usageLine e.command ++ helpLine e.command ++ "\n" else "") ++
    "Error: " ++ e.fault.message ++ "\n"

/-- A command, and whether it is watched while debugging. -/
structure Invocation where
  verbose : Bool
  command : Command
  deriving DecidableEq

namespace Command

/-- The format that settings ask for. -/
def formatOf (settings : List Setting) : Except UsageFault Format :=
  match Setting.value? settings .format with
  | none => .ok .json
  | some name =>
    match Format.ofName? name with
    | some format => .ok format
    | none => .error (.unknownFormat name)

/-- The target among arguments. -/
def targetOf : List String → Except UsageFault String
  | [] => .error .missingTarget
  | target :: _ => .ok target

/-- Refuse arguments after the target. -/
def single (arguments : List String) : Except UsageFault Unit :=
  let more := arguments.drop 1
  if more.isEmpty then .ok () else .error (.unexpected more)

/-- The command of a name with settings and arguments.  The format is looked at
before the target, and the path after it. -/
def ofSettings (name : CommandName) (settings : List Setting) (arguments : List String) :
    Except UsageFault Command :=
  if Setting.given settings .help then .ok (.help (some name))
  else
    match name with
    | .generate => do
      let format ← formatOf settings
      let target ← targetOf arguments
      single arguments
      return .generate target ((Setting.value? settings .output).map FilePath.ofText) format
        (Setting.value? settings .title) (Setting.value? settings .description)
        (Setting.value? settings .version) (Setting.given settings .strict)
    | .check => do
      let target ← targetOf arguments
      single arguments
      return .check target
    | .validate => do
      let target ← targetOf arguments
      match Setting.value? settings .path with
      | none => throw .missingPath
      | some path =>
        single arguments
        return .validate target path ((Setting.value? settings .method).getD "get")
          ((Setting.value? settings .data).getD "\x7b\x7d")

/-- Read the arguments of a command. -/
def ofArguments (name : CommandName) (arguments : List String) : Except UsageFault Command :=
  match name.options.scan true none arguments with
  | .error fault => .error (.option fault)
  | .ok (settings, arguments) => ofSettings name settings arguments

end Command

namespace Invocation

/-- The options of the program itself. -/
def options : OptionTable :=
  [("-v", .verbose), ("--verbose", .verbose), ("--help", .help)]

/-- The fault of a name that is no command: it may look like an option that the
program does not have. -/
def unknownName (name : String) (rest : List String) : UsageFault :=
  match options.scan false none (name :: rest) with
  | .error fault => .option fault
  | .ok _ => .unknownCommand name (Text.closest suggestionLimit CommandName.texts name)

/-- Read the arguments of the program. -/
def ofArguments (arguments : List String) : Except UsageError Invocation :=
  match options.scan false none arguments with
  | .error fault => .error ⟨none, .option fault⟩
  | .ok (settings, arguments) =>
    let verbose := Setting.given settings .verbose
    if Setting.given settings .help then .ok ⟨verbose, .help none⟩
    else
      match arguments with
      | [] => .error ⟨none, .missingCommand⟩
      | name :: rest =>
        match CommandName.ofText? name with
        | none => .error ⟨none, unknownName name rest⟩
        | some command =>
          match Command.ofArguments command rest with
          | .ok read => .ok ⟨verbose, read⟩
          | .error fault => .error ⟨some command, fault⟩

end Invocation

end ApiContract
