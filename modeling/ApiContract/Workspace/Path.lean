/-!
# File paths

A path is a root and the names that lead from it to a file.  Empty names and the
name of the place itself are left out when a path is read, so that two spellings
of one path differ only where they go up.
-/

namespace ApiContract

/-- A path.  The root is empty for a path from the working directory. -/
structure FilePath where
  root : String
  names : List String
  deriving DecidableEq

namespace FilePath

/-- The name that leads up. -/
def up : String := ".."

/-- The bytes that a name may have at most. -/
def nameLimit : Nat := 255

/-- The bytes that a whole path may have at most. -/
def textLimit : Nat := 4095

/-- Whether a name is longer than that of any file. -/
def isLongName (name : String) : Bool :=
  nameLimit < name.utf8ByteSize

/-- The root that a text starts with: two slashes are a root of their own, but
three are one. -/
def rootOf : List Char → String
  | '/' :: '/' :: '/' :: _ => "/"
  | '/' :: '/' :: _ => "//"
  | '/' :: _ => "/"
  | _ => ""

/-- The parts of a text between the slashes. -/
def parts : List Char → List (List Char)
  | [] => [[]]
  | '/' :: rest => [] :: parts rest
  | c :: rest =>
    match parts rest with
    | [] => [[c]]
    | part :: more => (c :: part) :: more

/-- Read a path. -/
def ofText (s : String) : FilePath :=
  ⟨rootOf s.toList,
    ((parts s.toList).filter fun part => part != [] && part != ['.']).map String.ofList⟩

/-- The text of a path. -/
def text (p : FilePath) : String :=
  let names := String.intercalate "/" p.names
  if p.root.isEmpty && p.names.isEmpty then "." else p.root ++ names

/-- Whether a path is longer than any that leads to a file. -/
def isLong (p : FilePath) : Bool :=
  textLimit < p.text.utf8ByteSize

/-- The names that are left when going up is done. -/
def resolve : List String → List String → List String
  | here, [] => here
  | here, name :: rest => resolve (if name == up then here.dropLast else here ++ [name]) rest

/-- The path of the file that a path leads to. -/
def resolved (p : FilePath) : FilePath :=
  ⟨p.root, resolve [] p.names⟩

example : (ofText "./a//b.py").text = "a/b.py" := by decide +kernel

end FilePath

end ApiContract
