import ApiContract.Workspace.Basic

/-!
# Targets

A target names a registry: a module or a file, and a member of it after a colon.
Without a member, the one of the standard name is meant.  What follows the last
colon is a member unless it holds a slash, so that a path with a drive letter is
not taken apart.
-/

namespace ApiContract

/-- What a file holds that can be loaded: the source of a module, its compiled form,
or a module of the machine's own code. -/
inductive FileKind where
  | source | compiled | machine
  deriving DecidableEq

namespace FileKind

/-- The ending of the paths of such files. -/
def ending : FileKind → List Char
  | .source => ".py".toList
  | .compiled => ".pyc".toList
  | .machine => ".so".toList

/-- What is expected of the file at a path. -/
def ofPath? (path : FilePath) : Option FileKind :=
  [source, compiled, machine].find? fun kind => kind.ending.isSuffixOf path.text.toList

/-- The failure of loading a directory as if it were a file. -/
def directoryFault : FileKind → Failure
  | .source | .compiled => Workspace.directoryFault
  | .machine => .notImported "cannot read file data: Is a directory"

/-- What such files are loaded by. -/
def loader : FileKind → String
  | .source => "SourceFileLoader"
  | .compiled => "SourcelessFileLoader"
  | .machine => "ExtensionFileLoader"

end FileKind

/-- The members that every module has which is loaded from a file. -/
def Members.ofFile (kind : FileKind) : Members :=
  [("__file__", .other "str"), ("__package__", .other "str"), ("__loader__", .other kind.loader),
    ("__spec__", .other "ModuleSpec")] ++
    (if kind = .machine then []
      else [("__cached__", .other "str"), ("__builtins__", .other "dict")]) ++
    standard

/-- A failure of the code of a module, seen by whoever imports the module by name. -/
def Failure.importing (name : String) : Failure → Failure
  | .notImported reason => .notLoaded (.brokenModule name reason)
  | f => f

/-- A target: a module or a file, and a member of it. -/
structure Target where
  moduleName : String
  member : String
  deriving DecidableEq

/-- What stands before and after the last occurrence of a character. -/
def Text.splitLast? (c : Char) : List Char → Option (List Char × List Char)
  | [] => none
  | d :: rest =>
    match splitLast? c rest with
    | some (before, after) => some (d :: before, after)
    | none => if d == c then some ([], rest) else none

namespace Target

/-- The member that is meant when none is named. -/
def standardMember : String := "registry"

/-- Whether a character separates the names of a path. -/
def isSlash (c : Char) : Bool :=
  c == '/' || c == '\\'

/-- Read a target. -/
def ofText (s : String) : Target :=
  match Text.splitLast? ':' s.toList with
  | some (before, after) =>
    if before.isEmpty || after.any isSlash then ⟨s, standardMember⟩
    else ⟨String.ofList before, if after.isEmpty then standardMember else String.ofList after⟩
  | none => ⟨s, standardMember⟩

/-- Whether a module is named by the path of a file. -/
def isPath (name : String) : Bool :=
  FileKind.source.ending.isSuffixOf name.toList || name.toList.any isSlash

/-- What stands before each point of a name, from the first point to the last. -/
def parents : List Char → List (List Char)
  | [] => []
  | c :: rest =>
    let more := (parents rest).map (c :: ·)
    if c == '.' then [] :: more else more

example : ofText "a:b:" = ⟨"a:b", "registry"⟩ := by decide +kernel

end Target

/-- What a target leads to, or why it leads to no registry, and what is logged on
the way. -/
structure Loading where
  result : Except Failure Registry
  log : List LogLine

namespace Binding

/-- What a member leads to, called if it can be.  `target` names it in
messages. -/
def load (target : String) : Binding → Loading
  | .registry r => ⟨.ok r, []⟩
  | .factory (.registry build) =>
    let o := build.run Registry.empty
    ⟨o.answer.map fun _ => o.registry, o.log⟩
  | .function => ⟨.error (.misuse .notCallable), []⟩
  | .factory .factory => other "function"
  | .factory (.value v) => other (kindOfValue v)
  | .value (.builtin b) => other b.name
  | .value v => other (kindOfValue v)
  | .other kind => other kind
where
  /-- A thing of another kind than a registry. -/
  other (kind : String) : Loading :=
    ⟨.error (.notLoaded (.notRegistry target kind)), []⟩

end Binding

namespace Workspace

/-- Why a module cannot be imported that is missing.  `parents` are the names before
the points of `missing`, longest first: the first of them that exists is imported on
the way, and holds no other modules. -/
def missingFault (w : Workspace) (name missing : String) : List String → Failure
  | [] => .notLoaded (.missingModule name missing none)
  | parent :: rest =>
    match w.modules.get? parent with
    | none => missingFault w name parent rest
    | some (.ok _) => .notLoaded (.missingModule name missing (some parent))
    | some (.error f) => f.importing name

/-- Import a module by name. -/
def importModule (w : Workspace) (name : String) : Imported :=
  if name.isEmpty then .error (.badValue .emptyModuleName)
  else if name.toList.head? == some '.' then .error (.misuse .relativeModule)
  else
    match w.modules.get? name with
    | some imported => imported.mapError (Failure.importing name)
    | none =>
      .error (w.missingFault name name ((Target.parents name.toList).reverse.map String.ofList))

/-- Load a file by its path, as the ending of the path says. -/
def loadFile (w : Workspace) (path : FilePath) : Except Failure (FileKind × Members) := do
  match ← w.entry path, FileKind.ofPath? path with
  | none, _ => throw (.notLoaded (.missingFile path.text))
  | some _, none => throw (.notLoaded (.unloadableFile path.text))
  | some .directory, some kind => throw kind.directoryFault
  | some (.file imported), some kind => imported.map (kind, ·)

/-- The member that a target leads to. -/
def find? (w : Workspace) (target : Target) : Except Failure (Option Binding) :=
  if Target.isPath target.moduleName then
    (w.loadFile (FilePath.ofText target.moduleName)).map fun loaded =>
      Members.member? loaded.2 (Members.ofFile loaded.1) target.member
  else
    (w.importModule target.moduleName).map fun own =>
      Members.member? own Members.standard target.member

/-- The registry that a target leads to. -/
def load (w : Workspace) (text : String) : Loading :=
  let target := Target.ofText text
  match w.find? target with
  | .error f => ⟨.error f, []⟩
  | .ok none => ⟨.error (.notLoaded (.missingMember target.moduleName target.member)), []⟩
  | .ok (some binding) => binding.load text

end Workspace

end ApiContract
