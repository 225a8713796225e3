import ApiContract.Proofs.Document.Operation

/-!
# The order of paths and operations

The paths of a document stand in the order in which endpoints on them are first
declared, and so do the operations of a path.  The invariant is that the keys are
all texts that were entered so far, each once and where it stands first; entering
one more text keeps it, and with it entering the operations of an endpoint and
entering endpoints.
-/

namespace ApiContract

namespace Value

variable {α : Type} {texts : List String} {entries : Entries Value α}

/-- Entries under texts as entries under values. -/
def underTexts (named : Entries String α) : Entries Value α :=
  named.map fun e => (.str e.1, e.2)

theorem putKey_underTexts (named : Entries String α) (text : String) (a : α) :
    putKey (underTexts named) (.str text) a = underTexts (named.put text a) := by
  induction named with
  | nil => rfl
  | cons first rest ih =>
      rcases first with ⟨other, b⟩
      have later : Entries.putBy sameKey (.str text) a (underTexts rest) =
          underTexts (Entries.put rest text a) := ih
      rw [Entries.put_cons, underTexts, List.map_cons, putKey, Entries.putBy, sameKey_str]
      cases other == text with
      | true => rfl
      | false => exact congrArg ((Value.str other, b) :: ·) later

theorem getBy?_underTexts (named : Entries String α) (text : String) :
    Entries.getBy? sameKey (underTexts named) (.str text) = named.get? text := by
  rw [Entries.getBy?, underTexts, List.find?_map, Option.map_map]
  rfl

/-- The keys of entries are some texts, each once, where it stands first. -/
def Keyed (texts : List String) (entries : Entries Value α) : Prop :=
  ∃ named, entries = underTexts named ∧ named.keys = texts.eraseDups

theorem keyed_nil : Keyed [] ([] : Entries Value α) :=
  ⟨[], rfl, rfl⟩

/-- Storing under one more text enters it. -/
theorem Keyed.put (keyed : Keyed texts entries) (text : String) (a : α) :
    Keyed (texts ++ [text]) (putKey entries (.str text) a) := by
  rcases keyed with ⟨named, rfl, keys⟩
  refine ⟨named.put text a, putKey_underTexts named text a, ?_⟩
  rw [Entries.keys_put, keys, Entries.eraseDups_concat]
  simp only [List.mem_eraseDups]

end Value

namespace Endpoint

variable {registered : String → Bool} {e : Endpoint}

/-- The operations of an endpoint, as texts. -/
def verbs (e : Endpoint) : List String :=
  match e.operations with
  | .list verbs => verbs.filterMap Value.text?
  | _ => []

/-- The path of an endpoint is a text or left out, and its operations are texts. -/
structure InTexts (e : Endpoint) : Prop where
  path : e.path = .null ∨ ∃ path, e.path = .str path
  operations : e.operations = .list (e.verbs.map .str)

theorem verbs_eq {verbs : List String} (operations : e.operations = .list (verbs.map .str)) :
    e.verbs = verbs := by
  rw [Endpoint.verbs, operations]
  change (verbs.map Value.str).filterMap Value.text? = verbs
  rw [List.filterMap_map]
  exact List.filterMap_some

theorem InTexts.typed (texts : e.InTexts) : e.Typed := by
  constructor
  · rcases texts.path with none | ⟨path, text⟩
    · exact Or.inl none
    · exact Or.inr (text ▸ rfl)
  · refine ⟨_, texts.operations, ?_⟩
    rw [List.forall_mem_map]
    exact fun _ _ => rfl

/-- Entering operations enters their verbs. -/
theorem keyed_enterOperations {verbs texts : List String} {before after : Entries Value Mapping}
    (keyed : Value.Keyed texts before)
    (entered : e.enterOperations registered before (verbs.map .str) = .ok after) :
    Value.Keyed (texts ++ verbs) after := by
  induction verbs generalizing texts before with
  | nil =>
      cases entered
      rwa [List.append_nil]
  | cons verb rest ih =>
      rw [List.map_cons, enterOperations, Attempt.do_eq_ok_iff] at entered
      rcases entered with ⟨operation, -, entered⟩
      rw [List.append_cons]
      exact ih (keyed.put verb operation) entered

end Endpoint

namespace Registry

variable {registered : String → Bool} {endpoints entered : List Endpoint} {e : Endpoint}
variable {paths result : Entries Value (Entries Value Mapping)}

/-- The paths that are given among those of some endpoints, as texts. -/
def givenPaths (endpoints : List Endpoint) : List String :=
  (endpoints.filterMap (·.path.text?)).filter (· ≠ "")

/-- The verbs that some endpoints declare on a path, as texts. -/
def verbsAt (endpoints : List Endpoint) (path : String) : List String :=
  (endpoints.filter (·.path = .str path)).flatMap (·.verbs)

/-- Some endpoints are entered: paths and operations are theirs, each once, where it is first
declared. -/
structure Entered (endpoints : List Endpoint) (entries : Entries Value (Entries Value Mapping)) :
    Prop where
  paths : Value.Keyed (givenPaths endpoints) entries
  operations : ∀ path, path ≠ "" →
    Value.Keyed (verbsAt endpoints path) (operationsAt entries (.str path))

theorem entered_nil : Entered [] [] :=
  ⟨Value.keyed_nil, fun _ _ => Value.keyed_nil⟩

/-- An endpoint without a path enters nothing. -/
theorem Entered.skip (done : Entered entered paths) (texts : e.InTexts)
    (given : e.path.isGiven = false) : Entered (entered ++ [e]) paths := by
  have pathless : e.path = .null ∨ e.path = .str "" := by
    rcases texts.path with none | ⟨path, text⟩
    · exact Or.inl none
    · right
      rw [text] at given ⊢
      simpa [Value.isGiven] using given
  constructor
  · have noPath : givenPaths (entered ++ [e]) = givenPaths entered := by
      rcases pathless with none | empty
      · simp [givenPaths, none, Value.text?]
      · simp [givenPaths, empty, Value.text?]
    rw [noPath]
    exact done.paths
  · intro path some
    have noVerb : verbsAt (entered ++ [e]) path = verbsAt entered path := by
      rcases pathless with none | empty
      · simp [verbsAt, none]
      · simp [verbsAt, empty, Ne.symm some]
    rw [noVerb]
    exact done.operations path some

/-- An endpoint with a path enters its path and its operations. -/
theorem Entered.enter (done : Entered entered paths) {path : String} (text : e.path = .str path)
    (given : path ≠ "") {operations : Entries Value Mapping}
    (stored : e.enterOperations registered (operationsAt paths e.path) (e.verbs.map .str) =
      .ok operations) :
    Entered (entered ++ [e]) (Value.putKey paths e.path operations) := by
  rw [text] at stored ⊢
  constructor
  · have onePath : givenPaths (entered ++ [e]) = givenPaths entered ++ [path] := by
      simp [givenPaths, text, Value.text?, given]
    rw [onePath]
    exact done.paths.put path operations
  · intro other some
    rw [operationsAt_putKey rfl rfl, Value.sameKey_str]
    by_cases same : path = other
    · have verbs : verbsAt (entered ++ [e]) other = verbsAt entered other ++ e.verbs := by
        simp [verbsAt, text, same]
      rw [if_pos (beq_iff_eq.mpr same), verbs]
      subst same
      exact Endpoint.keyed_enterOperations (done.operations path some) stored
    · have verbs : verbsAt (entered ++ [e]) other = verbsAt entered other := by
        simp [verbsAt, text, same]
      rw [if_neg (mt beq_iff_eq.mp same), verbs]
      exact done.operations other some

/-- Entering endpoints enters all of them. -/
theorem Entered.run (done : Entered entered paths) (texts : ∀ e ∈ endpoints, e.InTexts)
    (run : enterEndpoints registered paths endpoints = .ok result) :
    Entered (entered ++ endpoints) result := by
  induction endpoints generalizing entered paths with
  | nil =>
      cases run
      rwa [List.append_nil]
  | cons e rest ih =>
      obtain ⟨first, later⟩ := List.forall_mem_cons.mp texts
      rw [List.append_cons]
      cases given : e.path.isGiven with
      | false =>
          rw [enterEndpoints_cons_of_not_isGiven registered given] at run
          exact ih (done.skip first given) later run
      | true =>
          obtain ⟨path, text⟩ : ∃ path, e.path = .str path := by
            rcases first.path with none | text
            · simp [none, Value.isGiven] at given
            · exact text
          have nonempty : path ≠ "" := by
            rw [text] at given
            simpa [Value.isGiven] using given
          rcases enterEndpoints_cons_of_isGiven registered first.typed given with
            ⟨verbs, operations, -, unfolded⟩
          rw [first.operations, Value.list.injEq] at operations
          subst operations
          rw [unfolded, Attempt.do_eq_ok_iff] at run
          rcases run with ⟨entries, stored, run⟩
          exact ih (done.enter text nonempty stored) later run

end Registry

end ApiContract
