import ApiContract.Command.Run
import ApiContract.Proofs.Document.JsonLike

/-!
# Checking and generating

Declarations are checked without a word exactly if their document is generated in
strict mode: what the report accepts can be compiled, and what is compiled can be
written.  Generating that does not end well prints nothing and leaves files as they
are.

This needs texts of characters where the document is JSON, which has them as they
are declared.  A document in which another text stands is refused only when a file
has been opened for it.
-/

namespace ApiContract

/-- Arguments make a command, watched or not. -/
def Invocation.Makes (arguments : List String) (command : Command) : Prop :=
  ∃ verbose, Invocation.ofArguments arguments = .ok ⟨verbose, command⟩

/-- A failure does not end a command well. -/
theorem Ending.exitCode_ofFailure (f : Failure) : (Ending.ofFailure f).exitCode ≠ 0 := by
  rw [ofFailure]
  split <;> simp [exitCode]

namespace Command

/-- Declarations are checked without a word exactly if the report on them is empty. -/
theorem exitCode_checkRun_eq_zero_iff {r : Registry} :
    (checkRun r).ending.exitCode = 0 ↔ r.problems = .ok [] := by
  rw [checkRun]
  split
  · rename_i failed
    simp [failed, CommandRun.silent, Ending.exitCode]
  · rename_i clean
    simp [clean, CommandRun.printing, Ending.exitCode]
  · rename_i problems notNil found
    rw [found, Except.ok.injEq]
    exact iff_of_false (by simp [CommandRun.printing, Ending.exitCode]) notNil

/-- A text of characters is handed out if there is no file to write, or it can be written. -/
theorem exitCode_emit_eq_zero {w : Workspace} {document : Value} {format : Format} {s : String}
    (rendered : format.render document = .ok (.str s)) {output : Option FilePath}
    (writable : ∀ path, output = some path → w.writeFault? path = none) :
    (emit w document output format).ending.exitCode = 0 := by
  cases output with
  | none =>
      simp only [emit, rendered, printText, encoded]
      rfl
  | some path =>
      simp only [emit, rendered, writeText, writable path rfl, encoded]
      rfl

/-- The document of declarations like JSON is generated in strict mode exactly if the report on them
is empty. -/
theorem exitCode_generateRun_eq_zero_iff {w : Workspace} {r : Registry} (built : r.Built)
    (texts : ∀ e ∈ r.endpoints, e.path = .null ∨ e.path.isText = true) (like : r.JsonLike)
    (info : DocumentInfo) {output : Option FilePath} {format : Format}
    (whole : format = .json → r.Whole)
    (writable : ∀ path, output = some path → w.writeFault? path = none) :
    (generateRun w r info output format true).ending.exitCode = 0 ↔ r.problems = .ok [] := by
  rcases like.displayable.exists_problems built with ⟨problems, found⟩
  have result := r.result_compile found info true
  rw [generateRun, found]
  cases problems with
  | cons first rest =>
      rw [List.isEmpty_cons, Bool.not_false, Bool.and_self, if_pos rfl] at result
      simp [result, CommandRun.silent, Ending.exitCode_ofFailure]
  | nil =>
      rcases like.displayable.exists_document built (built.typed texts) found info with
        ⟨document, documentEq⟩
      rcases like.exists_render built documentEq format with ⟨text, rendered⟩
      rcases Format.exists_eq_str (fun json => (whole json).document documentEq) rendered with
        ⟨s, rfl⟩
      rw [List.isEmpty_nil, Bool.not_true, Bool.and_false, if_neg (by decide), documentEq] at result
      simp only [result, CommandRun.after, exitCode_emit_eq_zero rendered writable]

end Command

namespace CommandRun

/-- A run that does not end well prints nothing. -/
def QuietOnFailure (run : CommandRun) : Prop :=
  run.ending.exitCode ≠ 0 → run.printed = ""

/-- A run that does not end well leaves files as they are. -/
def SparesFiles (run : CommandRun) : Prop :=
  run.ending.exitCode ≠ 0 → run.file = none

theorem quietOnFailure_silent (log : List LogLine) (ending : Ending) :
    (silent log ending).QuietOnFailure :=
  fun _ => rfl

theorem sparesFiles_silent (log : List LogLine) (ending : Ending) :
    (silent log ending).SparesFiles :=
  fun _ => rfl

end CommandRun

namespace Command

open CommandRun (QuietOnFailure SparesFiles quietOnFailure_silent sparesFiles_silent)

theorem quietOnFailure_emit (w : Workspace) (document : Value) (output : Option FilePath)
    (format : Format) : (emit w document output format).QuietOnFailure := by
  unfold emit
  split
  · exact quietOnFailure_silent _ _
  · unfold printText
    split
    · exact fun failed => absurd rfl failed
    · exact quietOnFailure_silent _ _
  · unfold writeText
    split
    · exact quietOnFailure_silent _ _
    · split <;> exact fun _ => rfl

/-- A file is opened for a text of characters only if it can be written. -/
theorem sparesFiles_emit {w : Workspace} {document : Value} {format : Format}
    (characters : ∀ text, format.render document = .ok text → ∃ s, text = .str s)
    (output : Option FilePath) : (emit w document output format).SparesFiles := by
  unfold emit
  split
  · exact sparesFiles_silent _ _
  · unfold printText
    split <;> exact fun _ => rfl
  · rename_i rendered
    obtain ⟨s, rfl⟩ := characters _ rendered
    unfold writeText
    split
    · exact sparesFiles_silent _ _
    · exact fun failed => absurd rfl failed

theorem quietOnFailure_generateRun (w : Workspace) (r : Registry) (info : DocumentInfo)
    (output : Option FilePath) (format : Format) (strict : Bool) :
    (generateRun w r info output format strict).QuietOnFailure := by
  unfold generateRun
  dsimp only
  split
  · exact quietOnFailure_silent _ _
  · exact quietOnFailure_emit w _ output format

theorem sparesFiles_generateRun (w : Workspace) {r : Registry} {format : Format}
    (whole : format = .json → r.Whole) (info : DocumentInfo) (output : Option FilePath)
    (strict : Bool) : (generateRun w r info output format strict).SparesFiles := by
  unfold generateRun
  dsimp only
  split
  · exact sparesFiles_silent _ _
  · rename_i document compiled
    have documentEq := Registry.document_of_compile compiled
    exact sparesFiles_emit (fun text rendered =>
      Format.exists_eq_str (fun json => (whole json).document documentEq) rendered) output

/-- What holds of a run on the registry that a target leads to, and of a run that only fails, holds
of a run on the target. -/
theorem holds_onTarget {holds : CommandRun → Prop} {w : Workspace} {target : String}
    {run : Registry → CommandRun}
    (loaded : ∀ r log, (w.load target).result = .ok r → holds ((run r).after log))
    (failed : ∀ log f, holds (.silent log (.ofFailure f))) : holds (onTarget w target run) := by
  unfold onTarget
  dsimp only
  cases result : (w.load target).result with
  | ok r => exact loaded r _ result
  | error f => simpa [CommandRun.after, CommandRun.silent] using failed (w.load target).log f

/-- How a command on a target ends: as the target does if it leads to no registry. -/
theorem ending_onTarget (w : Workspace) (target : String) (run : Registry → CommandRun) :
    (onTarget w target run).ending =
      match (w.load target).result with
      | .ok r => (run r).ending
      | .error f => .ofFailure f := by
  rw [onTarget]
  cases (w.load target).result <;> rfl

/-- The arguments of a command make this command, or ask how it is used. -/
theorem ofArguments_generate {arguments : List String} {command : Command}
    (read : ofArguments .generate arguments = .ok command) :
    command = .help (some .generate) ∨ ∃ target output format title description version strict,
      command = .generate target output format title description version strict := by
  rw [ofArguments] at read
  split at read
  · cases read
  · rw [ofSettings] at read
    split at read
    · cases read
      exact Or.inl rfl
    · simp only [Attempt.do_eq_ok_iff, Attempt.pure_eq_ok_iff] at read
      rcases read with ⟨format, -, target, -, -, -, rfl⟩
      exact Or.inr ⟨_, _, _, _, _, _, _, rfl⟩

end Command

/-- What the program leaves behind is what its command does. -/
theorem runProgram_of_makes {arguments : List String} {command : Command}
    (makes : Invocation.Makes arguments command) (w : Workspace) (env : Entries String String) :
    (runProgram w env arguments).exitCode = (command.run w env).ending.exitCode ∧
      (runProgram w env arguments).file = (command.run w env).file ∧
      (runProgram w env arguments).output = (command.run w env).printed := by
  rcases makes with ⟨verbose, read⟩
  rw [runProgram, read]
  exact ⟨rfl, rfl, rfl⟩

/-- Arguments after the name of a command are read as its own. -/
theorem Invocation.ofArguments_of_scan {arguments rest : List String} {settings : List Setting}
    {name : CommandName}
    (scanned : Invocation.options.scan false none arguments = .ok (settings, name.text :: rest)) :
    (∃ e, Invocation.ofArguments arguments = .error e) ∨
      Invocation.Makes arguments (.help none) ∨
      ∃ command, Command.ofArguments name rest = .ok command ∧
        Invocation.Makes arguments command := by
  unfold Makes Invocation.ofArguments
  rw [scanned]
  dsimp only
  rw [CommandName.ofText?_text]
  split
  · exact Or.inr (Or.inl ⟨_, rfl⟩)
  · dsimp only
    cases read : Command.ofArguments name rest with
    | error fault => exact Or.inl ⟨_, rfl⟩
    | ok command => exact Or.inr (Or.inr ⟨command, rfl, _, rfl⟩)

/-- A world with one module, in which assorted values are declared. -/
def assortedWorld : Workspace :=
  .ofModules [("api", .ok [("registry", .registry Registry.assorted)])] []

theorem Registry.built_assorted : Registry.assorted.Built :=
  Built.of_calls [.component (.str "Assorted") (.leaf [("enum", .list [.null, .int (-20),
    .str "say \x22so\x22\n", .dict [(.int 1, .list [.bool true, .list []])]])])]
    (by simp [Call.declares]) (by decide +kernel)

theorem Registry.jsonLike_assorted : Registry.assorted.JsonLike := by
  constructor
  · intro n declared
    cases declared with
    | component member =>
        obtain rfl := List.mem_singleton.mp member
        have short : (Number.intText? (-20)).isSome = true := by decide +kernel
        have one : (Number.intText? 1).isSome = true := by decide +kernel
        apply Node.madeOf_leaf
        constructor
        · simp [Facets.blank, Facets.members]
        · simp [Facets.blank, Facets.allowed, Value.isPrimitive, Value.isLiteral, short, one]
    | parameter member | body member | response member => simp [assorted] at member
  · simp [assorted]
  · simp [assorted]

/-- An endpoint on a path that is half of a pair. -/
def halved : Registry :=
  ⟨[], [⟨.unpaired [0xD800], .str "", .list [.str "get"], .declared [], none, .declared []⟩]⟩

/-- A world with one module, in which it is declared. -/
def halvedWorld : Workspace :=
  .ofModules [("api", .ok [("registry", .registry halved)])] []

theorem Registry.built_halved : halved.Built :=
  Built.of_calls [.endpoint [.setPath (.unpaired [0xD800]), .addOperations [.str "get"]]]
    (by simp [Call.declares]) (by decide +kernel)

end ApiContract
