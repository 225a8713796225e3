import ApiContract.Proofs.Command.Generate
import ApiContract.Proofs.Workspace.Target

/-!
# Where targets lead

A target leads to the registry that stands at the member it names, or that is made by a
factory which stands there.  A target that leads to no registry has a fault of loading,
which every command reports in one line.  Besides, there are six ways in which the failure
of another operation escapes from loading: a module without a name, a module that is named
from where it is, a path that the system does not look up, a directory where a file is to
be loaded, code that fails when it is run, and a member that is called and wants arguments.
-/

namespace ApiContract

namespace Binding

/-- A member is a registry, or makes it when it is called. -/
inductive Makes : Binding → Registry → Prop
  | registry (r : Registry) : Makes (.registry r) r
  | factory {build : Builder Unit} {r : Registry} {log : List LogLine}
      (made : build.run .empty = ⟨r, .ok (), log⟩) : Makes (.factory (.registry build)) r

/-- A member does not fail if it is a factory that is called. -/
def Returns : Binding → Prop
  | .factory (.registry build) => ∃ r log, build.run .empty = ⟨r, .ok (), log⟩
  | _ => True

variable {text : String} {b : Binding} {r : Registry} {f : Failure}

theorem result_load_eq_ok_iff : (b.load text).result = .ok r ↔ b.Makes r := by
  constructor
  · intro loaded
    unfold load at loaded
    split at loaded
    · cases loaded
      exact .registry _
    · rename_i build
      obtain ⟨⟨⟩, answered, rfl⟩ := Attempt.map_eq_ok_iff.mp loaded
      have made : build.run .empty =
          ⟨(build.run .empty).registry, .ok (), (build.run .empty).log⟩ := by
        rw [← answered]
      exact .factory made
    all_goals cases loaded
  · intro makes
    cases makes with
    | registry => rfl
    | factory made => simp only [load, made, Attempt.map_ok]

/-- A member that leads to no registry is of another kind, or cannot be called as it is.  Nothing is
logged then, unless a factory fails. -/
theorem load_of_error (returns : b.Returns) (failed : (b.load text).result = .error f) :
    b.load text = ⟨.error f, []⟩ ∧
      ((∃ fault, f = .notLoaded fault) ∨ b = .function ∧ f = .misuse .notCallable) := by
  unfold load at failed ⊢
  split at failed
  · cases failed
  · obtain ⟨r, log, made⟩ := returns
    simp [made, Except.map] at failed
  · cases failed
    exact ⟨rfl, .inr ⟨rfl, rfl⟩⟩
  all_goals
    cases failed
    exact ⟨rfl, .inl ⟨_, rfl⟩⟩

end Binding

/-- What a member is of a name, among those of a module and those that all modules have. -/
theorem Members.member?_eq_some_iff {own all : Members} {name : String} {b : Binding} :
    member? own all name = some b ↔
      (own.get? name = some b ∨ own.get? name = none ∧ all.get? name = some b) ∧
        b.isNull = false := by
  rw [member?, Option.filter_eq_some_iff, Bool.not_eq_true']
  cases own.get? name <;> simp

/-- A path is no longer than that of a file may be, and neither is a name on it. -/
structure FilePath.Fits (p : FilePath) : Prop where
  text : p.isLong = false
  names : ∀ name ∈ p.names, isLongName name = false

/-- A target names a module, and not from where it is, or the path of a file that may exist. -/
structure Target.IsPlain (t : Target) : Prop where
  named : t.moduleName ≠ ""
  absolute : isPath t.moduleName = false → t.moduleName.toList.head? ≠ some '.'
  fits : isPath t.moduleName = true → (FilePath.ofText t.moduleName).Fits

namespace Failure

theorem importing_of_ne {f : Failure} (other : ∀ reason, f ≠ .notImported reason)
    {name : String} : f.importing name = f := by
  unfold importing
  split
  · exact absurd rfl (other _)
  · rfl

/-- Who imports a module sees the failure of its code as it is, unless the code misses something
that it imports. -/
theorem importing_cases (f : Failure) (name : String) :
    (∃ reason, f = .notImported reason) ∨
      (∀ reason, f ≠ .notImported reason) ∧ f.importing name = f := by
  by_cases missing : ∃ reason, f = .notImported reason
  · exact .inl missing
  · have other : ∀ reason, f ≠ .notImported reason := fun reason equal => missing ⟨reason, equal⟩
    exact .inr ⟨other, importing_of_ne other⟩

end Failure

namespace Workspace

variable {w : Workspace} {name text : String} {names here : List String} {own : Members}
variable {imported : Imported} {kind : FileKind} {p : FilePath} {t : Target} {b : Binding}
  {f : Failure}

/-! ### Modules and files -/

theorem importModule_eq_ok_iff :
    w.importModule name = .ok own ↔
      name ≠ "" ∧ name.toList.head? ≠ some '.' ∧ w.modules.get? name = some (.ok own) := by
  rw [importModule]
  by_cases named : name = ""
  · simp [named]
  by_cases point : name.toList.head? = some '.'
  · simp [named, point]
  cases found : w.modules.get? name with
  | none => simp [named, point]
  | some imported => cases imported <;> simp [named, point, Except.mapError]

/-- The code of a module fails that is imported for a name: of the module itself, or if there is
none, of the last one on the way to it. -/
inductive Fails (w : Workspace) (name : String) : Failure → Prop
  | here {f : Failure} (stands : w.modules.get? name = some (.error f)) : Fails w name f
  | before {f : Failure} {nearer farther : List String} {parent : String}
      (parents : (Target.parents name.toList).reverse.map String.ofList =
        nearer ++ parent :: farther)
      (missing : w.modules.get? name = none)
      (between : ∀ other ∈ nearer, w.modules.get? other = none)
      (stands : w.modules.get? parent = some (.error f)) : Fails w name f

/-- A module that is missing is missed, unless code fails on the way to it. -/
theorem missingFault_cases (missing : String) (parents : List String) :
    (∃ fault, w.missingFault name missing parents = .notLoaded fault) ∨
      ∃ nearer parent farther f, parents = nearer ++ parent :: farther ∧
        (∀ other ∈ nearer, w.modules.get? other = none) ∧
        w.modules.get? parent = some (.error f) ∧
        w.missingFault name missing parents = f.importing name := by
  induction parents generalizing missing with
  | nil => exact .inl ⟨_, rfl⟩
  | cons parent rest ih =>
      rw [missingFault]
      cases stands : w.modules.get? parent with
      | none =>
          refine (ih parent).imp_right ?_
          rintro ⟨nearer, other, farther, f, rfl, between, found, fault⟩
          exact ⟨parent :: nearer, other, farther, f, rfl,
            List.forall_mem_cons.mpr ⟨stands, between⟩, found, fault⟩
      | some imported =>
          cases imported with
          | ok own => exact .inl ⟨_, rfl⟩
          | error f => exact .inr ⟨[], parent, rest, f, rfl, by simp, stands, rfl⟩

/-- Which failure is that of the first module on the way whose code is run. -/
theorem missingFault_eq {f : Failure} {nearer farther : List String} {parent : String}
    (between : ∀ other ∈ nearer, w.modules.get? other = none)
    (stands : w.modules.get? parent = some (.error f)) (missing : String) :
    w.missingFault name missing (nearer ++ parent :: farther) = f.importing name := by
  induction nearer generalizing missing with
  | nil => simp [missingFault, stands]
  | cons other rest ih =>
      obtain ⟨absent, later⟩ := List.forall_mem_cons.mp between
      rw [List.cons_append, missingFault, absent]
      exact ih later other

/-- Code that fails is the failure of the import, in its own words. -/
theorem Fails.importModule_eq (fails : w.Fails name f) (named : name ≠ "")
    (absolute : name.toList.head? ≠ some '.') :
    w.importModule name = .error (f.importing name) := by
  have point : ¬(name.toList.head? == some '.') = true := by simpa using absolute
  rw [importModule, if_neg (by simpa using named), if_neg point]
  cases fails with
  | here stands =>
      rw [stands]
      rfl
  | before parents missing between stands =>
      rw [missing, parents]
      exact congrArg Except.error (missingFault_eq between stands name)

/-- A module that cannot be imported is missing, unless it has no name, is named from where it is,
or code fails. -/
theorem importModule_of_error (failed : w.importModule name = .error f) :
    (∃ fault, f = .notLoaded fault) ∨ name = "" ∧ f = .badValue .emptyModuleName ∨
      name.toList.head? = some '.' ∧ f = .misuse .relativeModule ∨
      name ≠ "" ∧ name.toList.head? ≠ some '.' ∧ ∃ g, w.Fails name g ∧ f = g.importing name := by
  rw [importModule] at failed
  split at failed
  · rename_i empty
    cases failed
    exact .inr (.inl ⟨by simpa using empty, rfl⟩)
  split at failed
  · rename_i point
    cases failed
    exact .inr (.inr (.inl ⟨by simpa using point, rfl⟩))
  rename_i empty point
  have named : name ≠ "" := by simpa using empty
  have absolute : name.toList.head? ≠ some '.' := by simpa using point
  split at failed
  · rename_i imported stands
    cases imported with
    | ok own => cases failed
    | error g =>
        cases failed
        exact .inr (.inr (.inr ⟨named, absolute, g, .here stands, rfl⟩))
  · rename_i missing
    cases failed
    rcases missingFault_cases name _ with
      ⟨fault, equal⟩ | ⟨nearer, parent, farther, g, parents, between, stands, equal⟩
    · exact .inl ⟨fault, equal⟩
    · exact .inr (.inr (.inr ⟨named, absolute, g,
        .before parents missing between stands, equal⟩))

/-- Beyond the working directory, nothing but a name that is too long stops a search. -/
theorem findBeyond_of_error (failed : findBeyond names = .error f) :
    f = .nameTooLong ∧ ∃ name ∈ names, FilePath.isLongName name = true := by
  induction names with
  | nil => cases failed
  | cons name rest ih =>
      rw [findBeyond] at failed
      split at failed
      · rename_i long
        cases failed
        exact ⟨rfl, name, List.mem_cons_self, long⟩
      split at failed
      · rcases ih failed with ⟨which, other, member, long⟩
        exact ⟨which, other, List.mem_cons_of_mem name member, long⟩
      · cases failed

/-- Nothing but a name that is too long stops a search. -/
theorem find_of_error (failed : w.find here names = .error f) :
    f = .nameTooLong ∧ ∃ name ∈ names, FilePath.isLongName name = true := by
  induction names generalizing here with
  | nil => cases failed
  | cons name rest ih =>
      have later (stopped : f = .nameTooLong ∧ ∃ other ∈ rest, FilePath.isLongName other = true) :
          f = .nameTooLong ∧ ∃ other ∈ name :: rest, FilePath.isLongName other = true := by
        rcases stopped with ⟨which, other, member, long⟩
        exact ⟨which, other, List.mem_cons_of_mem name member, long⟩
      rw [find] at failed
      split at failed
      · cases failed
      split at failed
      · rename_i long
        cases failed
        exact ⟨rfl, name, List.mem_cons_self, long⟩
      split at failed
      · exact later (ih failed)
      split at failed
      · exact later (findBeyond_of_error failed)
      · exact later (ih failed)

/-- There are no files beyond the working directory. -/
theorem findBeyond_ne_file : findBeyond names ≠ .ok (some (.file imported)) := by
  intro found
  induction names with
  | nil => cases found
  | cons name rest ih =>
      rw [findBeyond] at found
      split at found
      · cases found
      split at found
      · exact ih found
      · cases found

/-- A file that is found is one of the workspace. -/
theorem mem_files_of_find (found : w.find here names = .ok (some (.file imported))) :
    ∃ place, (place, imported) ∈ w.files := by
  induction names generalizing here with
  | nil =>
      rw [find, Except.ok.injEq, entryAt?] at found
      split at found
      · rename_i stands
        cases found
        exact ⟨here, Entries.mem_of_get? stands⟩
      · split at found <;> cases found
  | cons name rest ih =>
      rw [find] at found
      split at found
      · cases found
      split at found
      · cases found
      split at found
      · exact ih found
      split at found
      · exact absurd found findBeyond_ne_file
      · exact ih found

/-- A path that cannot be looked up is too long, or has a name on it that is, or the system hides
it. -/
theorem entry_of_error (failed : w.entry p = .error f) :
    f = .nameTooLong ∧ ¬p.Fits ∨ w.hidden p = some f := by
  rw [entry] at failed
  split at failed
  · cases failed
  split at failed
  · rename_i long
    cases failed
    exact .inl ⟨rfl, fun fits => Bool.false_ne_true (fits.text.symm.trans long)⟩
  split at failed
  · rename_i hidden
    cases failed
    exact .inr hidden
  have stopped : f = .nameTooLong ∧ ∃ name ∈ p.names, FilePath.isLongName name = true := by
    split at failed
    · exact find_of_error failed
    · exact findBeyond_of_error failed
  rcases stopped with ⟨which, name, member, long⟩
  exact .inl ⟨which, fun fits => Bool.false_ne_true ((fits.names name member).symm.trans long)⟩

theorem mem_files_of_entry (found : w.entry p = .ok (some (.file imported))) :
    ∃ place, (place, imported) ∈ w.files := by
  rw [entry] at found
  split at found
  · cases found
  split at found
  · cases found
  split at found
  · cases found
  split at found
  · exact mem_files_of_find found
  · exact absurd found findBeyond_ne_file

theorem loadFile_eq_ok_iff :
    w.loadFile p = .ok (kind, own) ↔
      w.entry p = .ok (some (.file (.ok own))) ∧ FileKind.ofPath? p = some kind := by
  rw [loadFile, Attempt.do_eq_ok_iff]
  constructor
  · rintro ⟨entry, found, loaded⟩
    split at loaded
    · cases loaded
    · cases loaded
    · cases loaded
    · rename_i expected
      obtain ⟨members, rfl, equal⟩ := Attempt.map_eq_ok_iff.mp loaded
      cases equal
      exact ⟨found, expected⟩
  · rintro ⟨found, expected⟩
    exact ⟨_, found, by rw [expected]; rfl⟩

/-- A file that cannot be loaded is missing or of another kind, unless its path is not looked up, it
is a directory, or its code fails. -/
theorem loadFile_of_error (failed : w.loadFile p = .error f) :
    (∃ fault, f = .notLoaded fault) ∨ w.entry p = .error f ∨
      ∃ kind, FileKind.ofPath? p = some kind ∧
        (w.entry p = .ok (some .directory) ∧ f = kind.directoryFault ∨
          w.entry p = .ok (some (.file (.error f)))) := by
  rw [loadFile] at failed
  cases found : w.entry p with
  | error other =>
      rw [found] at failed
      cases failed
      exact .inr (.inl rfl)
  | ok entry =>
      rw [found, Attempt.ok_do] at failed
      split at failed
      · cases failed
        exact .inl ⟨_, rfl⟩
      · cases failed
        exact .inl ⟨_, rfl⟩
      · rename_i kind expected
        cases failed
        exact .inr (.inr ⟨kind, expected, .inl ⟨rfl, rfl⟩⟩)
      · rename_i imported kind expected
        cases Attempt.map_eq_error_iff.mp failed
        exact .inr (.inr ⟨kind, expected, .inr rfl⟩)

/-! ### Targets -/

/-- A name leads to the members of a module or of a file, besides which there are those that all
modules have, or all that are loaded from files. -/
inductive Leads (w : Workspace) (name : String) : Members → Members → Prop
  | module {own : Members} (plain : Target.isPath name = false) (named : name ≠ "")
      (absolute : name.toList.head? ≠ some '.') (stands : w.modules.get? name = some (.ok own)) :
      Leads w name own .standard
  | file {own : Members} {kind : FileKind} (path : Target.isPath name = true)
      (stands : w.entry (.ofText name) = .ok (some (.file (.ok own))))
      (expected : FileKind.ofPath? (.ofText name) = some kind) : Leads w name own (.ofFile kind)

/-- A target names a member that is not null: one of the module or of the file itself, or else one
that all of them have. -/
def Names (w : Workspace) (t : Target) (b : Binding) : Prop :=
  ∃ own all, w.Leads t.moduleName own all ∧
    (own.get? t.member = some b ∨ own.get? t.member = none ∧ all.get? t.member = some b) ∧
      b.isNull = false

/-- The failure of another operation escapes from loading a target.  Code that imports what cannot
be imported has a fault of loading if it is that of a module. -/
inductive Escapes (w : Workspace) (t : Target) : Failure → Prop
  | unnamed (empty : t.moduleName = "") : Escapes w t (.badValue .emptyModuleName)
  | relative (plain : Target.isPath t.moduleName = false)
      (point : t.moduleName.toList.head? = some '.') : Escapes w t (.misuse .relativeModule)
  | module {f : Failure} (plain : Target.isPath t.moduleName = false) (named : t.moduleName ≠ "")
      (absolute : t.moduleName.toList.head? ≠ some '.') (fails : w.Fails t.moduleName f)
      (other : ∀ reason, f ≠ .notImported reason) : Escapes w t f
  | refused {f : Failure} (path : Target.isPath t.moduleName = true)
      (refused : w.entry (.ofText t.moduleName) = .error f) : Escapes w t f
  | directory {kind : FileKind} (path : Target.isPath t.moduleName = true)
      (stands : w.entry (.ofText t.moduleName) = .ok (some .directory))
      (expected : FileKind.ofPath? (.ofText t.moduleName) = some kind) :
      Escapes w t kind.directoryFault
  | file {f : Failure} {kind : FileKind} (path : Target.isPath t.moduleName = true)
      (stands : w.entry (.ofText t.moduleName) = .ok (some (.file (.error f))))
      (expected : FileKind.ofPath? (.ofText t.moduleName) = some kind) : Escapes w t f
  | uncallable (named : w.Names t .function) : Escapes w t (.misuse .notCallable)

/-- Every factory in a workspace returns. -/
structure FactoriesReturn (w : Workspace) : Prop where
  modules : ∀ m ∈ w.modules, ∀ own, m.2 = .ok own → ∀ b ∈ own, b.2.Returns
  files : ∀ m ∈ w.files, ∀ own, m.2 = .ok own → ∀ b ∈ own, b.2.Returns

theorem find?_eq_ok_some_iff : w.find? t = .ok (some b) ↔ w.Names t b := by
  rw [find?]
  split
  · rename_i path
    simp only [Attempt.map_eq_ok_iff, Members.member?_eq_some_iff]
    constructor
    · rintro ⟨⟨kind, own⟩, loaded, named⟩
      obtain ⟨stands, expected⟩ := loadFile_eq_ok_iff.mp loaded
      exact ⟨own, _, .file path stands expected, named⟩
    · rintro ⟨own, all, leads, named⟩
      cases leads with
      | module plain => exact absurd (plain.symm.trans path) Bool.false_ne_true
      | file _ stands expected =>
          exact ⟨(_, own), loadFile_eq_ok_iff.mpr ⟨stands, expected⟩, named⟩
  · rename_i plain
    rw [Bool.not_eq_true] at plain
    simp only [Attempt.map_eq_ok_iff, importModule_eq_ok_iff, Members.member?_eq_some_iff]
    constructor
    · rintro ⟨own, ⟨present, absolute, stands⟩, named⟩
      exact ⟨own, _, .module plain present absolute stands, named⟩
    · rintro ⟨own, all, leads, named⟩
      cases leads with
      | module _ present absolute stands => exact ⟨own, ⟨present, absolute, stands⟩, named⟩
      | file path => exact absurd (plain.symm.trans path) Bool.false_ne_true

/-- A target that leads to nothing has a fault of loading, or the failure of another operation
escapes. -/
theorem find?_of_error (failed : w.find? t = .error f) :
    (∃ fault, f = .notLoaded fault) ∨ w.Escapes t f := by
  rw [find?] at failed
  split at failed
  · rename_i path
    rcases loadFile_of_error (Attempt.map_eq_error_iff.mp failed) with
      reported | refused | ⟨kind, expected, ⟨stands, rfl⟩ | stands⟩
    · exact .inl reported
    · exact .inr (.refused path refused)
    · exact .inr (.directory path stands expected)
    · exact .inr (.file path stands expected)
  · rename_i plain
    rw [Bool.not_eq_true] at plain
    rcases importModule_of_error (Attempt.map_eq_error_iff.mp failed) with
      reported | ⟨empty, rfl⟩ | ⟨point, rfl⟩ | ⟨named, absolute, g, fails, rfl⟩
    · exact .inl reported
    · exact .inr (.unnamed empty)
    · exact .inr (.relative plain point)
    · rcases Failure.importing_cases g t.moduleName with ⟨reason, rfl⟩ | ⟨other, same⟩
      · exact .inl ⟨_, rfl⟩
      · rw [same]
        exact .inr (.module plain named absolute fails other)

/-- A member that a target names does not fail if it is called. -/
theorem FactoriesReturn.returns (returns : w.FactoriesReturn) (named : w.Names t b) :
    b.Returns := by
  obtain ⟨own, all, leads, stands | ⟨-, shared⟩, -⟩ := named
  · have stands := Entries.mem_of_get? stands
    cases leads with
    | module _ _ _ found => exact returns.modules _ (Entries.mem_of_get? found) own rfl _ stands
    | file _ found =>
        obtain ⟨place, member⟩ := mem_files_of_entry found
        exact returns.files _ member own rfl _ stands
  · -- None of the members that modules have anyway is a factory.
    have plain : ∀ e ∈ all, e.2.Returns := by
      cases leads with
      | module => simp [Members.standard, Binding.Returns]
      | @file kind =>
          cases kind <;> simp [Members.ofFile, Members.standard, Binding.Returns]
    exact plain _ (Entries.mem_of_get? shared)

/-- What escapes from loading a target is the failure of loading it, and nothing is logged. -/
theorem Escapes.load_eq (escapes : w.Escapes (.ofText text) f) :
    w.load text = ⟨.error f, []⟩ := by
  have stopped : w.find? (.ofText text) = .error f → w.load text = ⟨.error f, []⟩ := by
    intro failed
    simp only [load, failed]
  cases escapes with
  | unnamed empty =>
      apply stopped
      simp [find?, importModule, empty, Target.isPath, FileKind.ending, Attempt.map_error]
  | relative plain point =>
      have named : (Target.ofText text).moduleName ≠ "" := by
        intro empty
        simp [empty] at point
      apply stopped
      simp [find?, importModule, plain, point, named, Attempt.map_error]
  | module plain named absolute fails other =>
      apply stopped
      rw [find?, plain, if_neg (by decide), fails.importModule_eq named absolute,
        Failure.importing_of_ne other, Attempt.map_error]
  | refused path refused =>
      apply stopped
      rw [find?, if_pos path, loadFile, refused]
      rfl
  | directory path stands expected =>
      apply stopped
      rw [find?, if_pos path, loadFile, stands, expected]
      rfl
  | file path stands expected =>
      apply stopped
      rw [find?, if_pos path, loadFile, stands, expected]
      rfl
  | uncallable named => simp [load, find?_eq_ok_some_iff.mpr named, Binding.load]

theorem result_load_eq_ok_iff {r : Registry} :
    (w.load text).result = .ok r ↔ ∃ b, w.Names (.ofText text) b ∧ b.Makes r := by
  simp only [← find?_eq_ok_some_iff, ← @Binding.result_load_eq_ok_iff text]
  rw [load]
  split
  · rename_i failed
    simp [failed]
  · rename_i missing
    simp [missing]
  · rename_i found
    simp [found]

/-- A target that leads to no registry has a fault of loading, or the failure of another operation
escapes.  Nothing is logged then. -/
theorem load_of_error (returns : w.FactoriesReturn) (failed : (w.load text).result = .error f) :
    w.load text = ⟨.error f, []⟩ ∧
      ((∃ fault, f = .notLoaded fault) ∨ w.Escapes (.ofText text) f) := by
  rw [load] at failed ⊢
  split at failed
  · rename_i stopped
    cases failed
    exact ⟨rfl, find?_of_error stopped⟩
  · cases failed
    exact ⟨rfl, .inl ⟨_, rfl⟩⟩
  · rename_i binding found
    have named := find?_eq_ok_some_iff.mp found
    rcases Binding.load_of_error (returns.returns named) failed with ⟨loading, cause⟩
    refine ⟨loading, cause.imp_right ?_⟩
    rintro ⟨rfl, rfl⟩
    exact .uncallable named

end Workspace

/-- The target of a command. -/
def Command.target? : Command → Option String
  | .generate target _ _ _ _ _ _ | .check target | .validate target _ _ _ => some target
  | .help _ => none

/-- A command whose target leads to no registry ends with the failure of loading it. -/
theorem Command.run_of_load {w : Workspace} {command : Command} {text : String} {f : Failure}
    (aims : command.target? = some text) (loaded : w.load text = ⟨.error f, []⟩)
    (env : Entries String String) : command.run w env = .silent [] (.ofFailure f) := by
  cases command with
  | help name => cases aims
  | _ =>
      cases aims
      simp only [run, onTarget, loaded, CommandRun.after, CommandRun.silent, List.append_nil]

/-- What the program leaves behind if the target leads to no registry: a fault of loading is
reported in one line, and any other failure escapes. -/
theorem runProgram_of_load {w : Workspace} {arguments : List String} {command : Command}
    {text : String} {f : Failure} (makes : Invocation.Makes arguments command)
    (aims : command.target? = some text) (loaded : w.load text = ⟨.error f, []⟩)
    (env : Entries String String) :
    runProgram w env arguments =
      match f.report? with
      | some report => ⟨1, "", "Error: " ++ report.line ++ "\n", none, none⟩
      | none => ⟨1, "", "", none, some f⟩ := by
  rcases makes with ⟨verbose, read⟩
  rw [runProgram, read]
  simp only [Command.run_of_load aims loaded env]
  rw [Ending.ofFailure]
  cases f.report? <;> simp [CommandRun.silent, CommandRun.errorText, CommandRun.shownLog,
    Ending.exitCode, Ending.report, Ending.failure?]

namespace Workspace

variable {w : Workspace}

/-- The code of every module and of every file runs through, and the system looks up all paths. -/
structure RunsThrough (w : Workspace) : Prop where
  modules : ∀ m ∈ w.modules, ∃ own, m.2 = .ok own
  files : ∀ m ∈ w.files, ∃ own, m.2 = .ok own
  shown : ∀ p, w.hidden p = none

/-- Then nothing escapes from a plain target, which is no directory and whose member wants no
arguments. -/
theorem RunsThrough.not_escapes (runs : w.RunsThrough) {t : Target} (plain : t.IsPlain)
    (noDirectory : w.entry (.ofText t.moduleName) ≠ .ok (some .directory))
    (callable : ¬w.Names t .function) (f : Failure) : ¬w.Escapes t f := by
  intro escapes
  cases escapes with
  | unnamed empty => exact plain.named empty
  | relative isName point => exact plain.absolute isName point
  | module _ _ _ fails =>
      have code {name : String} : w.modules.get? name ≠ some (.error f) := by
        intro stands
        obtain ⟨own, equal⟩ := runs.modules _ (Entries.mem_of_get? stands)
        cases equal
      cases fails with
      | here stands => exact code stands
      | before _ _ _ stands => exact code stands
  | refused path refused =>
      rcases entry_of_error refused with ⟨-, long⟩ | hidden
      · exact long (plain.fits path)
      · cases (runs.shown _).symm.trans hidden
  | directory _ stands => exact noDirectory stands
  | file _ stands =>
      obtain ⟨place, member⟩ := mem_files_of_entry stands
      obtain ⟨own, equal⟩ := runs.files _ member
      cases equal
  | uncallable wanting => exact callable wanting

/-- A workspace with a module and a file, in which there are a registry, a factory, and a value of
another kind. -/
def mixed : Workspace :=
  .ofModules
    [("api", .ok [("registry", .registry .assorted), ("build", .factory (.registry (pure ()))),
      ("version", .value (.int 3))]), ("broken", .error (.raised "SyntaxError"))]
    [(["api", "old.py"], .ok [("registry", .registry .assorted)])]

theorem factoriesReturn_mixed : mixed.FactoriesReturn := by
  constructor
  · simp only [mixed, ofModules, List.forall_mem_cons, Except.ok.injEq, forall_eq', reduceCtorEq,
      false_implies, implies_true, Binding.Returns]
    exact ⟨⟨trivial, ⟨.empty, [], rfl⟩, trivial, by simp⟩, by simp⟩
  · simp [mixed, ofModules, Binding.Returns]

end Workspace

end ApiContract
