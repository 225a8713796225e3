import ApiContract.Proofs.Registry.Declaration

/-!
# What a declaration that stops leaves behind

A declaration whose root is refused leaves the registry as it was.  One that
stops at a node below the root leaves behind what declaring the specification
leaves that is cut off before this node.  Only a parameter with properties that
are given while it is being declared leaves nothing behind when it stops.
-/

namespace ApiContract

namespace Registry

/-- The root of a specification is accepted: it comes to stand, and what its options name can be
called with it. -/
def AcceptsRoot (r : Registry) (d : Declaration) (spec : NodeSpec) : Prop :=
  (∃ root, r.readRoot spec.options spec.inside d = .ok root) ∧ spec.options.callFault? = none

/-- The root of a specification is refused with a failure. -/
def RefusesRoot (r : Registry) (d : Declaration) (spec : NodeSpec) (f : Failure) : Prop :=
  r.readRoot spec.options spec.inside d = .error f

variable {r : Registry} {d : Declaration} {spec : NodeSpec} {f : Failure}

/-- What is held back leaves the registry as it is when it fails. -/
theorem registry_of_holdsBack (holdsBack : d.holdsBack = true) (inside : spec.inside = true)
    (failed : (r.call (d.call spec)).answer = .error f) :
    (r.call (d.call spec)).registry = r := by
  rw [call_declaration] at failed ⊢
  cases read : r.readRoot spec.options spec.inside d with
  | error f => rfl
  | ok root =>
      rw [read] at failed
      rcases declared : spec.declareOn root.node with ⟨n, _ | failure⟩
      · simp [declared, answerUnless] at failed
      · simp [declared, holdsBack, inside]

/-- A declaration of which the root is refused leaves the registry as it was.  One of which a node
below the root is refused, and no node before it, leaves what the declaration leaves that is cut off
before this node, which has just the nodes before it and does not fail; but what is held back leaves
nothing, whatever it fails for. -/
theorem call_of_stopped (r : Registry) (d : Declaration) (spec : NodeSpec) (f : Failure) :
    (r.RefusesRoot d spec f → r.call (d.call spec) = .unchanged r (.error f)) ∧
      (∀ before line after, r.AcceptsRoot d spec → spec.lines = before ++ line :: after →
        (∀ earlier ∈ before, earlier.Accepted) → line.Refused f →
          (spec.cut before.length).lines = before ∧
            (∃ shown, (r.call (d.call (spec.cut before.length))).answer = .ok shown) ∧
            (r.call (d.call spec)).answer = .error f ∧
            (r.call (d.call spec)).registry =
              if d.holdsBack && spec.inside then r
              else (r.call (d.call (spec.cut before.length))).registry) ∧
      (d.holdsBack = true → spec.inside = true → (r.call (d.call spec)).answer = .error f →
        (r.call (d.call spec)).registry = r) := by
  refine ⟨call_of_readRoot_error, ?_, registry_of_holdsBack⟩
  rintro before line after ⟨⟨root, read⟩, callable⟩ split accepted refused
  obtain ⟨stopped, complete⟩ :=
    NodeSpec.declareOn_of_refused callable split accepted refused root.node
  have readCut : r.readRoot (spec.cut before.length).options (spec.cut before.length).inside d =
      .ok root := by
    rwa [NodeSpec.cut_eq_mk, NodeSpec.options_mk, NodeSpec.inside_mk]
  have callableCut : (spec.cut before.length).options.callFault? = none := by
    rwa [NodeSpec.cut_eq_mk, NodeSpec.options_mk]
  rw [call_of_readRoot read callable, call_of_readRoot readCut callableCut]
  refine ⟨?_, ⟨root.shown ((spec.cut before.length).declareOn root.node).1, ?_⟩, ?_, ?_⟩
  · rw [NodeSpec.lines_cut, split, List.take_left]
  · simp only [complete]
    rfl
  · simp only [stopped]
    rfl
  · simp [stopped, complete]

/-- A book with a title, an author whose age has an option that nobody knows, and pages. -/
def book : NodeSpec :=
  .mk (Options.ofEntries [("type", .str "object")]) true [
    (.str "title", .leaf [("type", .str "string")]),
    (.str "author", .mk (Options.ofEntries [("type", .str "object")]) false [
      (.str "age", .leaf [("typ", .str "number")])]),
    (.str "pages", .leaf [("type", .str "number")])]

/-- The failure of an option that nobody knows. -/
def unknownType : Failure :=
  .invalid [⟨["typ"], .unexpected⟩]

/-- A book as a component has its title and its author, who has no properties, as if nothing else
were declared.  As a parameter it does not stand, and neither does what has the option itself. -/
theorem call_of_stopped_book :
    (Registry.empty.call (.component (.str "Book") book)).registry =
        (Registry.empty.call (.component (.str "Book") (book.cut 2))).registry ∧
      ((Registry.empty.call (.component (.str "Book") (book.cut 2))).registry.components.map
        fun c => c.node.properties.keys) = [["title", "author"]] ∧
      (Registry.call ⟨[], [.empty]⟩ (.edit 0 (.addParameter (.str "book") book))).registry =
        ⟨[], [.empty]⟩ ∧
      Registry.empty.call (.component (.str "Book") (.leaf [("typ", .str "object")])) =
        .unchanged .empty (.error unknownType) := by
  obtain ⟨-, stopped, -⟩ :=
    call_of_stopped .empty (.component (.str "Book")) book unknownType
  obtain ⟨-, -, held⟩ :=
    call_of_stopped ⟨[], [.empty]⟩ (.parameter 0 (.str "book")) book unknownType
  obtain ⟨refused, -, -⟩ :=
    call_of_stopped .empty (.component (.str "Book")) (.leaf [("typ", .str "object")]) unknownType
  have accepted : ∀ line ∈ book.lines.take 2, line.Accepted :=
    List.forall_mem_cons.mpr ⟨⟨⟨_, rfl⟩, rfl⟩,
      List.forall_mem_cons.mpr ⟨⟨⟨_, rfl⟩, rfl⟩, List.forall_mem_nil _⟩⟩
  obtain ⟨-, -, -, kept⟩ :=
    stopped (book.lines.take 2) _ _ ⟨⟨_, rfl⟩, rfl⟩ rfl accepted rfl
  exact ⟨kept, rfl, held rfl rfl rfl, refused rfl⟩

end Registry

end ApiContract
