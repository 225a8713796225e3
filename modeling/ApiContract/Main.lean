import ApiContract.Command.Run

/-!
# The program

The program runs a command in an environment and a workspace.  It has no
declarations of its own: a program that declares an API calls `runMain` with the
workspace that holds its registries.
-/

namespace ApiContract

/-- The variables that the settings of documents are taken from. -/
def variableNames : List String :=
  ["OPENAPI_TITLE", "OPENAPI_DESCRIPTION", "OPENAPI_VERSION"]

/-- The variables that are set. -/
def readVariables : IO (Entries String String) :=
  variableNames.filterMapM fun name => do
    return (← IO.getEnv name).map (name, ·)

/-- Write a file, and the directories that lead to it. -/
def writeOutput (path : FilePath) (text : String) : IO Unit := do
  let directory : FilePath := ⟨path.root, path.names.dropLast⟩
  IO.FS.createDirAll directory.text
  IO.FS.writeFile path.text text

/-- Run the program in a workspace. -/
def runMain (w : Workspace) (arguments : List String) : IO UInt32 := do
  let run := runProgram w (← readVariables) arguments
  if let some (path, text) := run.file then
    writeOutput path text
  IO.print run.output
  IO.eprint run.errors
  return UInt32.ofNat run.exitCode

end ApiContract

/-- The program without any declarations. -/
def main (arguments : List String) : IO UInt32 :=
  ApiContract.runMain ApiContract.Workspace.empty arguments
