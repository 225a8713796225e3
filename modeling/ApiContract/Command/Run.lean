import ApiContract.Command.Basic
import ApiContract.Json.Reader
import ApiContract.Workspace.Target

/-!
# Running commands

A command is run in a workspace and an environment.  What it leaves is what it
prints, what it logs, the file it writes, and how it ends: well, with an error
that is reported in a line, with an error in its arguments, or with a failure
that nothing reports.

What is printed or written to a file has to be a text of characters.  A file is
emptied when it is opened, and this is before a text that is none of characters is
refused.
-/

namespace ApiContract

/-- How a command ends. -/
inductive Ending where
  /-- Well, with a note to whoever ran it. -/
  | done (note : String)
  | failed (message : String)
  | misused (e : UsageError)
  | escaped (f : Failure)

/-- What a command leaves behind. -/
structure CommandRun where
  log : List LogLine
  printed : String
  /-- The file that was opened for writing, and what it holds in the end. -/
  file : Option (FilePath × String)
  ending : Ending

namespace Ending

/-- The end that a failure makes: one about declarations or targets is
reported. -/
def ofFailure (f : Failure) : Ending :=
  match f.report? with
  | some report => .failed report.line
  | none => .escaped f

/-- The exit code of an end. -/
def exitCode : Ending → Nat
  | .done _ => 0
  | .failed _ | .escaped _ => 1
  | .misused _ => 2

/-- What is said of an end besides the log. -/
def report : Ending → String
  | .done note => note
  | .failed message => "Error: " ++ message ++ "\n"
  | .misused e => e.report
  | .escaped _ => ""

/-- The failure that nothing reported. -/
def failure? : Ending → Option Failure
  | .escaped f => some f
  | _ => none

end Ending

namespace CommandRun

/-- A run that prints nothing and writes nothing. -/
def silent (log : List LogLine) (ending : Ending) : CommandRun :=
  ⟨log, "", none, ending⟩

/-- A run that prints a text. -/
def printing (log : List LogLine) (text : String) (ending : Ending) : CommandRun :=
  ⟨log, text, none, ending⟩

/-- The run after more was logged. -/
def after (log : List LogLine) (run : CommandRun) : CommandRun :=
  { run with log := log ++ run.log }

/-- The lines of the log that show: warnings, and remarks when asked for. -/
def shownLog (verbose : Bool) (run : CommandRun) : List LogLine :=
  run.log.filter fun line => line.warning || verbose

/-- What a run writes to the stream of errors. -/
def errorText (verbose : Bool) (run : CommandRun) : String :=
  String.join ((run.shownLog verbose).map fun line => line.line ++ "\n") ++ run.ending.report

end CommandRun

namespace DocumentInfo

/-- The settings with others in place of them where these are given. -/
def replaced (info : DocumentInfo) (title description version : Option String) : DocumentInfo :=
  ⟨title.getD info.title, description.getD info.description, version.getD info.version⟩

end DocumentInfo

namespace Command

/-- The entries that some names lead to in a document. -/
def entriesAt (document : Value) : List String → List (Value × Value)
  | [] =>
    match document with
    | .dict es => es
    | _ => []
  | name :: names =>
    match document with
    | .dict es => ((Value.lookup? es name).map (entriesAt · names)).getD []
    | _ => []

/-- The note about a document that was written to a file. -/
def writtenNote (document : Value) (path : FilePath) : String :=
  let paths := entriesAt document ["paths"]
  let schemas := entriesAt document ["components", "schemas"]
  "Wrote " ++ toString paths.length ++ " paths and " ++ toString schemas.length ++
    " schemas to " ++ path.text ++ "\n"

/-- The characters of a text that is printed or written to a file. -/
def encoded : Value → Except Failure String
  | .str s => .ok s
  | _ => .error (.badValue .notEncodable)

/-- Print a text. -/
def printText (text : Value) : CommandRun :=
  match encoded text with
  | .ok s => .printing [] s (.done "")
  | .error f => .silent [] (.escaped f)

/-- Write a text to a file, and say so in a note. -/
def writeText (w : Workspace) (path : FilePath) (text : Value) (note : String) : CommandRun :=
  match w.writeFault? path with
  | some f => .silent [] (.escaped f)
  | none =>
    match encoded text with
    | .ok s => ⟨[], "", some (path, s), .done note⟩
    | .error f => ⟨[], "", some (path, ""), .escaped f⟩

/-- Hand out a document: into a file if there is one to write. -/
def emit (w : Workspace) (document : Value) (output : Option FilePath) (format : Format) :
    CommandRun :=
  match format.render document, output with
  | .error f, _ => .silent [] (.escaped f)
  | .ok text, none => printText text
  | .ok text, some path => writeText w path text (writtenNote document path)

/-- Generate the document of a registry. -/
def generateRun (w : Workspace) (r : Registry) (info : DocumentInfo) (output : Option FilePath)
    (format : Format) (strict : Bool) : CommandRun :=
  let compilation := r.compile info strict
  match compilation.result with
  | .error f => .silent compilation.warnings (.ofFailure f)
  | .ok document => (emit w document output format).after compilation.warnings

/-- The line about a registry in which every declaration is well formed. -/
def wellFormedLine (r : Registry) : String :=
  "OK: " ++ toString r.components.length ++ " components, " ++ toString r.endpoints.length ++
    " endpoints.\n"

/-- Check the declarations of a registry. -/
def checkRun (r : Registry) : CommandRun :=
  match r.problems with
  | .error f => .silent [] (.escaped f)
  | .ok [] => .printing [] (wellFormedLine r) (.done "")
  | .ok problems =>
    .printing [] (String.join (problems.map fun p => p.1 ++ ": " ++ p.2 ++ "\n"))
      (.failed (toString problems.length ++ " problem(s) found."))

/-- Print a value, and end as asked. -/
def answer (log : List LogLine) (v : Value) (ending : Ending) : CommandRun :=
  match Json.written Json.answerStyle v with
  | .ok text => .printing log (String.ofList text ++ "\n") ending
  | .error f => .silent log (.escaped f)

/-- Validate the entries of an object by a validator. -/
def validateBy (validator : Validator) (entries : List (Value × Value)) : CommandRun :=
  match validator.ready with
  | .error f => .silent [validator.compiled] (.escaped f)
  | .ok validator =>
    let validation := validator.run entries
    if validation.success then
      answer [validator.compiled] (Value.record validation.data) (.done "")
    else
      answer [validator.compiled] (.dict (ErrorTree.toEntries validation.errors))
        (.failed "Validation failed.")

/-- Validate the entries of an object against an endpoint. -/
def validateEntries (e : Endpoint) (entries : List (Value × Value)) : CommandRun :=
  match e.requestValidator? with
  | .error f => .silent [] (.escaped f)
  | .ok none => answer [] (.dict entries) (.done "")
  | .ok (some validator) => validateBy validator entries

/-- The fault of data that no endpoint can take. -/
def dataFault (fault : UsageFault) : Ending :=
  .misused ⟨some .validate, fault⟩

/-- The end that a text makes which is no JSON. -/
def unreadable (fault : Json.Fault) : Ending :=
  match fault.message?, fault with
  | some reason, _ => dataFault (.unreadableData reason)
  | none, .tooDeep => .escaped .tooDeep
  | none, _ => .escaped (.badValue .tooManyDigits)

/-- Validate data, written as a JSON object, against an endpoint. -/
def validateData (e : Endpoint) (data : String) : CommandRun :=
  match Json.read data with
  | .ok (.dict entries) => validateEntries e entries
  | .ok _ => .silent [] (dataFault .noObject)
  | .error fault => .silent [] (unreadable fault)

/-- Validate data against the endpoint on a path with an operation. -/
def validateRun (r : Registry) (path method data : String) : CommandRun :=
  match r.find? (.str path) method with
  | .error f => .silent [] (.escaped f)
  | .ok (some (_, e)) => validateData e data
  | .ok none =>
    .silent [] (.failed ("No endpoint declares " ++ Text.upper method ++ " " ++ path))

/-- Run something on the registry that a target names. -/
def onTarget (w : Workspace) (target : String) (run : Registry → CommandRun) : CommandRun :=
  let loading := w.load target
  let made :=
    match loading.result with
    | .ok r => run r
    | .error f => .silent [] (.ofFailure f)
  made.after loading.log

/-- Run a command. -/
def run (w : Workspace) (env : Entries String String) : Command → CommandRun
  | .generate target output format title description version strict =>
    let info := (DocumentInfo.ofEnvironment env).replaced title description version
    onTarget w target fun r => generateRun w r info output format strict
  | .check target => onTarget w target checkRun
  | .validate target path method data =>
    onTarget w target fun r => validateRun r path method data
  | .help name => .printing [] (usageLine name) (.done "")

end Command

/-- What the program leaves behind for some arguments. -/
structure ProgramRun where
  exitCode : Nat
  output : String
  errors : String
  /-- The file that was opened for writing, and what it holds in the end. -/
  file : Option (FilePath × String)
  failure : Option Failure

/-- Run the program. -/
def runProgram (w : Workspace) (env : Entries String String) (arguments : List String) :
    ProgramRun :=
  match Invocation.ofArguments arguments with
  | .error e =>
    let ending := Ending.misused e
    ⟨ending.exitCode, "", ending.report, none, none⟩
  | .ok ⟨verbose, command⟩ =>
    let run := command.run w env
    ⟨run.ending.exitCode, run.printed, run.errorText verbose, run.file, run.ending.failure?⟩

end ApiContract
