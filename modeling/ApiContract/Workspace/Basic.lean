import ApiContract.Registry.Builder
import ApiContract.Workspace.Path

/-!
# Workspaces

A workspace is what a target may lead into: modules that can be imported by name,
and files below the working directory.  The code of either may fail when it is
run; otherwise there are members, and a member is a registry, a value of another
kind, or a factory that makes one when it is called.  Besides its own members,
every module has some that all modules have.

A document may be written to a file of the workspace, or to a new one, and the
directories that lead to it are made.  The system may refuse to look up a path or
to write a file, for reasons of its own.
-/

namespace ApiContract

/-- What a factory makes.  A registry is built when the factory is called, with
what is logged meanwhile. -/
inductive Product where
  | registry (build : Builder Unit)
  | value (v : Value)
  | factory

/-- What a member of a module is. -/
inductive Binding where
  | registry (r : Registry)
  | factory (made : Product)
  | value (v : Value)
  /-- A thing of a kind that no value has. -/
  | other (kind : String)
  /-- A thing that can only be called with arguments. -/
  | function

namespace Binding

instance : Inhabited Binding :=
  ⟨.value .null⟩

/-- What a value is, in a word. -/
def kindOfValue : Value → String
  | .null => "NoneType"
  | .bool _ => "bool"
  | .int _ => "int"
  | .float _ => "float"
  | .str _ | .unpaired _ => "str"
  | .list _ => "list"
  | .dict _ => "dict"
  | .builtin _ => "type"
  | .tag _ => "TypeTag"
  | .component _ => "Component"

/-- Whether a member is null, which counts as missing. -/
def isNull : Binding → Bool
  | .value .null => true
  | _ => false

end Binding

/-- The members of a module by name. -/
abbrev Members := Entries String Binding

namespace Members

/-- The members that every module has. -/
def standard : Members :=
  [("__name__", .other "str"), ("__repr__", .other "str"), ("__str__", .other "str"),
    ("__dict__", .other "dict"), ("__annotations__", .other "dict"),
    ("__getstate__", .other "dict"), ("__dir__", .other "list"), ("__hash__", .other "int"),
    ("__sizeof__", .other "int"), ("__init_subclass__", .other "NoneType"),
    ("__subclasshook__", .other "NotImplementedType"), ("__class__", .function),
    ("__init__", .function), ("__new__", .function), ("__eq__", .function), ("__ne__", .function),
    ("__lt__", .function), ("__le__", .function), ("__gt__", .function), ("__ge__", .function),
    ("__setattr__", .function), ("__delattr__", .function), ("__getattribute__", .function),
    ("__format__", .function), ("__reduce__", .function), ("__reduce_ex__", .function)]

/-- The member of a name.  A module's own members come before those that all
modules have, and a null member is none. -/
def member? (own all : Members) (name : String) : Option Binding :=
  ((own.get? name).orElse fun _ => all.get? name).filter fun b => !b.isNull

end Members

/-- What comes of running the code of a module: its members, or the failure of the
code. -/
abbrev Imported := Except Failure Members

/-- What a target may lead into. -/
structure Workspace where
  modules : Entries String Imported
  /-- The files by the names that lead to them. -/
  files : Entries (List String) Imported
  /-- Why the system refuses to look up a path. -/
  hidden : FilePath → Option Failure
  /-- Why the system refuses to write a file at a path. -/
  locked : FilePath → Option Failure

/-- What stands at a place below the working directory. -/
inductive FileEntry where
  | file (imported : Imported)
  | directory

namespace Workspace

/-- A workspace of some modules and files, where the system refuses nothing. -/
def ofModules (modules : Entries String Imported) (files : Entries (List String) Imported) :
    Workspace :=
  ⟨modules, files, fun _ => none, fun _ => none⟩

/-- A workspace without anything in it. -/
def empty : Workspace :=
  ofModules [] []

/-- Whether some names lead to a directory: all that come before a file's last
do. -/
def isDirectory (w : Workspace) (names : List String) : Bool :=
  names.isEmpty || w.files.any fun f => names.isPrefixOf f.1 && names != f.1

/-- What stands at the end of some names. -/
def entryAt? (w : Workspace) (names : List String) : Option FileEntry :=
  match w.files.get? names with
  | some imported => some (.file imported)
  | none => if w.isDirectory names then some .directory else none

/-- What names lead to beyond the working directory: nothing but directories is
known to be there. -/
def findBeyond : List String → Except Failure (Option FileEntry)
  | [] => .ok (some .directory)
  | name :: rest =>
    if FilePath.isLongName name then .error .nameTooLong
    else if name == FilePath.up then findBeyond rest
    else .ok none

/-- What names lead to from a place.  All but the last have to lead to
directories, and a name that is too long is noticed in the directory where it is
looked up. -/
def find (w : Workspace) : List String → List String → Except Failure (Option FileEntry)
  | here, [] => .ok (w.entryAt? here)
  | here, name :: rest =>
    if !w.isDirectory here then .ok none
    else if FilePath.isLongName name then .error .nameTooLong
    else if name != FilePath.up then find w (here ++ [name]) rest
    else if here.isEmpty then findBeyond rest
    else find w here.dropLast rest

/-- What a path leads to.  No path has a null character. -/
def entry (w : Workspace) (p : FilePath) : Except Failure (Option FileEntry) :=
  if p.text.toList.contains '\x00' then .ok none
  else if p.isLong then .error .nameTooLong
  else
    match w.hidden p with
    | some f => .error f
    | none => if p.root.isEmpty then w.find [] p.names else findBeyond p.names

/-! ### Writing files -/

/-- Why the directory cannot be made that names lead to from a place, with all that
lead to it: a file stands in the way, or a name is too long.  Beyond the working
directory no file is known to be. -/
def wayFault? (w : Workspace) : List String → List String → Option Failure
  | _, [] => none
  | here, name :: rest =>
    if FilePath.isLongName name then some .nameTooLong
    else if name == FilePath.up && here.isEmpty then beyond rest
    else if name == FilePath.up then wayFault? w here.dropLast rest
    else if w.files.has (here ++ [name]) then
      some (.raised (if rest.isEmpty then "FileExistsError" else "NotADirectoryError"))
    else wayFault? w (here ++ [name]) rest
where
  /-- Why directories cannot be made beyond the working directory. -/
  beyond (names : List String) : Option Failure :=
    if names.any FilePath.isLongName then some .nameTooLong else none

/-- The failure of what wants a file where a directory stands. -/
def directoryFault : Failure :=
  .raised "IsADirectoryError"

/-- Why no file can be written at a path. -/
def writeFault? (w : Workspace) (p : FilePath) : Option Failure :=
  if p.text.toList.contains '\x00' then some (.badValue .nullInPath)
  else if p.isLong then some .nameTooLong
  else
    (if p.root.isEmpty then w.wayFault? [] p.names.dropLast
      else wayFault?.beyond p.names.dropLast).orElse fun _ =>
    match p.names.getLast? with
    | none => some directoryFault
    | some name =>
      if name == FilePath.up then some directoryFault
      else if FilePath.isLongName name then some .nameTooLong
      else if p.root.isEmpty && w.isDirectory (FilePath.resolve [] p.names) then
        some directoryFault
      else w.locked p

end Workspace

end ApiContract
