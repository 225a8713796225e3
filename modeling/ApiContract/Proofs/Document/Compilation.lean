import ApiContract.Proofs.Document.Displayable
import ApiContract.Proofs.Document.Operation
import ApiContract.Proofs.Lint.Search

/-!
# When compiling fails

Where all that is declared can be displayed, compiling fails for two reasons
only.  In strict mode it fails with the report of the registry, if that is not
empty.  Otherwise it fails with the first response key that names no status,
among the keys of the endpoints that have a path and an operation.  So a
registry with an empty report is compiled in both modes, to the same document.
-/

namespace ApiContract

namespace Registry

/-! ### There is always a report -/

variable {r : Registry}

/-- There is a report on a registry in which everything can be displayed. -/
theorem Displayable.exists_problems (displayable : r.Displayable) (built : r.Built) :
    ∃ problems, r.problems = .ok problems := by
  rw [← Attempt.failure?_eq_none_iff, built.failure?_problems, List.findSome?_eq_none_iff]
  intro key listed
  rcases List.mem_flatMap.mp listed with ⟨e, member, inside⟩
  exact Status.refusal?_eq_none (displayable.keys e member key inside)

/-! ### Compiling -/

/-- The response keys that are compiled, first to last: those of the endpoints that have a path
and an operation. -/
def documentedKeys (r : Registry) : List Value :=
  (r.endpoints.filter fun e => e.path.isGiven && e.operations.isGiven).flatMap (·.statusKeys)

/-- A key is compiled exactly if it is one of an endpoint that has a path and an operation. -/
theorem mem_documentedKeys_iff {key : Value} :
    key ∈ r.documentedKeys ↔
      ∃ e ∈ r.endpoints, e.path.isGiven = true ∧ e.operations.isGiven = true ∧
        key ∈ e.statusKeys := by
  simp [documentedKeys, and_assoc]

/-- Compiling goes through the keys in order, and stops at the first that names no status. -/
theorem Displayable.failure?_document_eq (displayable : r.Displayable) (built : r.Built)
    (typed : ∀ e ∈ r.endpoints, e.Typed) (info : DocumentInfo) :
    Attempt.failure? (r.document info) =
      r.documentedKeys.findSome? fun key => Attempt.failure? (Status.resolve key) := by
  have endpoints := displayable.endpoint built
  rw [displayable.failure?_document built typed, paths, failure?_enterEndpoints r.has typed,
    documentedKeys]
  -- Both sides go through the endpoints in order, so they agree if they do at each endpoint.
  generalize r.endpoints = list at endpoints
  induction list with
  | nil => rfl
  | cons e rest ih =>
      rcases List.forall_mem_cons.mp endpoints with ⟨first, later⟩
      rw [List.findSome?_cons, List.filter_cons, ih later,
        Endpoint.failure?_describe r.has first.compilable]
      cases e.path.isGiven && e.operations.isGiven with
      | false => rfl
      | true =>
          rw [if_pos rfl, if_pos rfl, List.flatMap_cons, List.findSome?_append]
          cases e.statusKeys.findSome? fun key => Attempt.failure? (Status.resolve key) <;> rfl

/-- What compiling comes to where there is a report. -/
theorem result_compile {problems : Entries String String} (found : r.problems = .ok problems)
    (info : DocumentInfo) (strict : Bool) :
    (r.compile info strict).result =
      if strict && !problems.isEmpty then .error (.malformed problems) else r.document info := by
  rw [compile, found]
  dsimp only
  split <;> rfl

/-- A key that can be read is compiled, or is reported as unknown under its text. -/
theorem failure?_resolve_eq_some_iff {key : Value} (readable : Status.Readable key) {f : Failure} :
    Attempt.failure? (Status.resolve key) = some f ↔
      ∃ text, key.shown = .ok text ∧ Status.resolve key = .error (Status.unknown text) ∧
        f = Status.unknown text := by
  rcases Status.resolve_cases readable with ⟨text, textEq, ⟨code, resolved, -⟩ | failed⟩
  · simp [resolved]
  · simp [textEq, failed, eq_comm]

/-- The document fails for the first key that names no status, and for nothing else. -/
theorem Displayable.document_eq_error_iff (displayable : r.Displayable) (built : r.Built)
    (typed : ∀ e ∈ r.endpoints, e.Typed) (info : DocumentInfo) {f : Failure} :
    r.document info = .error f ↔
      ∃ earlier key later text, r.documentedKeys = earlier ++ key :: later ∧
        (∀ k ∈ earlier, ∃ code, Status.resolve k = .ok code) ∧
        key.shown = .ok text ∧ Status.resolve key = .error (Status.unknown text) ∧
          f = Status.unknown text := by
  have readable : ∀ key ∈ r.documentedKeys, Status.Readable key := by
    intro key member
    rcases mem_documentedKeys_iff.mp member with ⟨e, listed, -, -, inside⟩
    exact displayable.keys e listed key inside
  rw [← Attempt.failure?_eq_some_iff, displayable.failure?_document_eq built typed,
    List.findSome?_eq_some_iff]
  constructor
  · rintro ⟨earlier, key, later, parts, failed, resolved⟩
    have member : key ∈ r.documentedKeys := by simp [parts]
    rcases (failure?_resolve_eq_some_iff (readable key member)).mp failed with
      ⟨text, shown, unknown, equal⟩
    exact ⟨earlier, key, later, text, parts,
      fun k before => Attempt.failure?_eq_none_iff.mp (resolved k before), shown, unknown, equal⟩
  · rintro ⟨earlier, key, later, text, parts, resolved, -, unknown, rfl⟩
    exact ⟨earlier, key, later, parts, Attempt.failure?_eq_some_iff.mpr unknown,
      fun k before => Attempt.failure?_eq_none_iff.mpr (resolved k before)⟩

/-- There is a document if the report is empty. -/
theorem Displayable.exists_document (displayable : r.Displayable) (built : r.Built)
    (typed : ∀ e ∈ r.endpoints, e.Typed) (clean : r.problems = .ok []) (info : DocumentInfo) :
    ∃ document, r.document info = .ok document := by
  rcases problems_eq_ok_nil_iff.mp clean with ⟨-, -, formed⟩
  rw [← Attempt.failure?_eq_none_iff, displayable.failure?_document_eq built typed,
    List.findSome?_eq_none_iff]
  intro key member
  rcases mem_documentedKeys_iff.mp member with ⟨e, listed, -, -, inside⟩
  exact Attempt.failure?_eq_none_iff.mpr ((formed e listed).resolves key inside)

/-- There is no document exactly if some key that is compiled names no status. -/
theorem Displayable.exists_document_eq_error_iff (displayable : r.Displayable) (built : r.Built)
    (typed : ∀ e ∈ r.endpoints, e.Typed) (info : DocumentInfo) :
    (∃ f, r.document info = .error f) ↔
      ∃ key ∈ r.documentedKeys, ∀ code, Status.resolve key ≠ .ok code := by
  simp only [← Attempt.failure?_eq_some_iff, displayable.failure?_document_eq built typed]
  rw [← Option.isSome_iff_exists, List.findSome?_isSome_iff]
  apply exists_congr
  intro key
  apply and_congr_right
  intro _
  cases Status.resolve key <;> simp

/-- Where everything that is declared can be displayed, compiling with warnings fails exactly if
an endpoint with a path and an operation has a response key that names no status, and then with
the first such key.  Compiling in strict mode fails exactly if the report is not empty, and then
with the report, so never for an unknown status.  With an empty report both give one document. -/
theorem compile_eq_error_iff {r : Registry} (built : r.Built)
    (texts : ∀ e ∈ r.endpoints, e.path = .null ∨ e.path.isText = true)
    (displayable : r.Displayable) (info : DocumentInfo) :
    ∃ problems, r.problems = .ok problems ∧
      ((∃ f, (r.compile info false).result = .error f) ↔
        ∃ e ∈ r.endpoints, e.path.isGiven = true ∧ e.operations.isGiven = true ∧
          ∃ key ∈ e.statusKeys, ∀ code, Status.resolve key ≠ .ok code) ∧
      (∀ f, (r.compile info false).result = .error f ↔
        ∃ earlier key later text, r.documentedKeys = earlier ++ key :: later ∧
          (∀ k ∈ earlier, ∃ code, Status.resolve k = .ok code) ∧
          key.shown = .ok text ∧ Status.resolve key = .error (Status.unknown text) ∧
            f = Status.unknown text) ∧
      (∀ f, (r.compile info true).result = .error f ↔ problems ≠ [] ∧ f = .malformed problems) ∧
      (∀ text names, (r.compile info true).result ≠ .error (.unknownStatus text names)) ∧
      (problems = [] → ∃ document, (r.compile info true).result = .ok document ∧
        (r.compile info false).result = .ok document) := by
  have typed := built.typed texts
  rcases displayable.exists_problems built with ⟨problems, found⟩
  have lenient : (r.compile info false).result = r.document info := result_compile found info false
  have accepted : problems = [] → ∃ document, r.document info = .ok document := by
    rintro rfl
    exact displayable.exists_document built typed found info
  have strict : ∀ f, (r.compile info true).result = .error f ↔
      problems ≠ [] ∧ f = .malformed problems := by
    intro f
    rw [result_compile found]
    cases problems with
    | nil =>
        rcases accepted rfl with ⟨document, documentEq⟩
        simp [documentEq]
    | cons first rest => simp [eq_comm]
  refine ⟨problems, found, ?_, ?_, strict, ?_, ?_⟩
  · rw [lenient, displayable.exists_document_eq_error_iff built typed]
    constructor
    · rintro ⟨key, member, unknown⟩
      rcases mem_documentedKeys_iff.mp member with ⟨e, listed, path, operations, inside⟩
      exact ⟨e, listed, path, operations, key, inside, unknown⟩
    · rintro ⟨e, listed, path, operations, key, inside, unknown⟩
      exact ⟨key, mem_documentedKeys_iff.mpr ⟨e, listed, path, operations, inside⟩, unknown⟩
  · intro f
    rw [lenient]
    exact displayable.document_eq_error_iff built typed info
  · intro text names failed
    cases ((strict _).mp failed).2
  · intro clean
    rcases accepted clean with ⟨document, documentEq⟩
    have same : (r.compile info true).result = r.document info := by
      rw [result_compile found, clean]
      rfl
    exact ⟨document, same.trans documentEq, lenient.trans documentEq⟩

/-- A response in which nothing is declared, under a key. -/
def under (key : Value) : Value × Standing Response :=
  (key, .declared (.mk Facets.blank []))

/-- Declaring an endpoint without a path, and one that lists books, both with a key that names no
status. -/
def misspelledCalls : List Call :=
  [.endpoint [.addOperations [.str "get"], .addResponse (.str "lost") (.leaf [])],
    listingCall "New" [.addParameter (.str "page") (.leaf [
        ("type", .list [.builtin .int, .null]), ("required", .bool true)]),
      .addResponse (.int 200) (.leaf []), .addResponse (.str "nope") (.leaf [])]]

/-- A page, given by its number or by null. -/
def numberedPage : Parameter :=
  ⟨"page", "query", true, .mk { Facets.blank with type := .union [.builtin .int, .null] } []⟩

/-- The registry of the endpoint without a path and the one that lists books. -/
def misspelled : Registry :=
  ⟨[], [⟨.null, .str "", .list [.str "get"], .declared [], none, .declared [under (.str "lost")]⟩,
    { listing "New" [numberedPage] with
      responses := .declared [under (.int 200), under (.str "nope")] }]⟩

/-- Compiling the books fails with the second key of the second endpoint, and in strict mode with
the report. -/
theorem compile_misspelled :
    misspelled.Built ∧
      (misspelled.compile .standard false).result = .error (Status.unknown "nope") ∧
      ∃ problems, misspelled.problems = .ok problems ∧
        (misspelled.compile .standard true).result = .error (.malformed problems) := by
  have built : misspelled.Built :=
    Built.of_calls misspelledCalls (by simp [misspelledCalls, listingCall, Call.declares])
      (by decide +kernel)
  have nodes : ∀ e ∈ misspelled.endpoints,
      (∀ parameters, e.parameters = .declared parameters → ∀ p ∈ parameters, p = numberedPage) ∧
      e.body = none ∧
      ∀ responses, e.responses = .declared responses →
        ∀ response ∈ responses, response.2 = .declared (.mk Facets.blank []) := by
    have bare : ∀ key, (under key).2 = .declared (.mk Facets.blank []) := fun _ => rfl
    simp [misspelled, listing, -Prod.forall, bare]
  have displayable : misspelled.Displayable := by
    constructor
    · intro n declared
      cases declared with
      | component member => simp [misspelled] at member
      | parameter member declared listed =>
          rw [(nodes _ member).1 _ declared _ listed]
          apply Node.displayable_leaf
          constructor
          · simp [Facets.members, Value.normalized?, Builtin.tag?, Value.keysShown_of_leaf]
          · simp [Facets.blank, Facets.allowed]
      | body member declared => simp [(nodes _ member).2.1] at declared
      | response member declared listed =>
          cases (nodes _ member).2.2 _ declared _ listed
          apply Node.displayable_leaf
          constructor
          · simp [Facets.members, Facets.blank]
          · simp [Facets.blank, Facets.allowed]
    · simp [misspelled, listing]
    · have lost : Status.Readable (.str "lost") := Status.readable_str (by decide +kernel)
      have nope : Status.Readable (.str "nope") := Status.readable_str (by decide +kernel)
      have success : Status.Readable (.int 200) :=
        @Status.lt_digitCeiling 200 3 (by decide) (by decide)
      simp [misspelled, listing, Endpoint.statusKeys, under, lost, nope, success]
  have texts : ∀ e ∈ misspelled.endpoints, e.path = .null ∨ e.path.isText = true := by
    simp [misspelled, listing, Value.isText]
  rcases compile_eq_error_iff built texts displayable .standard with
    ⟨problems, found, -, lenient, strict, -⟩
  have success : ∀ k ∈ [Value.int 200], ∃ code, Status.resolve k = .ok code := by
    simp [Status.resolve]
  have unknown : Status.resolve (.str "nope") = .error (Status.unknown "nope") := by
    decide +kernel
  have keys : misspelled.documentedKeys = [.int 200] ++ .str "nope" :: [] := by decide +kernel
  have malformed : problems ≠ [] := by
    have reported : misspelled.problems ≠ .ok [] := by decide +kernel
    rintro rfl
    exact reported found
  exact ⟨built, (lenient _).mpr ⟨_, _, _, _, keys, success, rfl, unknown, rfl⟩, problems, found,
    (strict _).mpr ⟨malformed, rfl⟩⟩

/-- One endpoint with a parameter that cannot be shown, and a key that names no status. -/
def mispaged : Registry :=
  ⟨[], [{ listing "New" [page] with responses := .declared [under (.str "nope")] }]⟩

/-- A registry with an empty report is not compiled in either mode if something in it cannot be
shown, and then an unknown status is not what compiling fails with. -/
theorem compile_paged :
    (paged.Built ∧ (∀ e ∈ paged.endpoints, e.path.isText = true ∧ e.statusKeys = []) ∧
      paged.problems = .ok [] ∧
      (paged.compile .standard false).result = .error (.badValue .tooManyDigits) ∧
      (paged.compile .standard true).result = .error (.badValue .tooManyDigits)) ∧
    mispaged.Built ∧ (∀ e ∈ mispaged.endpoints, e.path.isText = true) ∧
      mispaged.documentedKeys = [.str "nope"] ∧
      Status.resolve (.str "nope") = .error (Status.unknown "nope") ∧
      (mispaged.compile .standard false).result = .error (.badValue .tooManyDigits) := by
  have built : mispaged.Built :=
    Built.of_calls [listingCall "New" [addPage, .addResponse (.str "nope") (.leaf [])]]
      (by simp [listingCall, Call.declares]) (by decide +kernel)
  have clean : paged.problems = .ok [] := by decide +kernel
  have unknown : Status.resolve (.str "nope") = .error (Status.unknown "nope") := by
    decide +kernel
  have lenient : Attempt.failure? (paged.compile .standard false).result =
      some (.badValue .tooManyDigits) := by
    decide +kernel
  have strict : Attempt.failure? (paged.compile .standard true).result =
      some (.badValue .tooManyDigits) := by
    decide +kernel
  have failed : Attempt.failure? (mispaged.compile .standard false).result =
      some (.badValue .tooManyDigits) := by
    decide +kernel
  have texts : ∀ e ∈ paged.endpoints, e.path.isText = true ∧ e.statusKeys = [] := by
    simp [paged, listing, Value.isText, Endpoint.statusKeys]
  have mispagedTexts : ∀ e ∈ mispaged.endpoints, e.path.isText = true := by
    simp [mispaged, listing, Value.isText]
  exact ⟨⟨built_paged, texts, clean, Attempt.failure?_eq_some_iff.mp lenient,
    Attempt.failure?_eq_some_iff.mp strict⟩, built, mispagedTexts, rfl, unknown,
    Attempt.failure?_eq_some_iff.mp failed⟩

end Registry

end ApiContract
