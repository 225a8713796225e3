import ApiContract.Proofs.Schema.Declared

/-!
# Where declaring stops

A node is declared before its properties, and these are declared one after the
other, each with its own properties before the next.  The nodes of a
specification in this order are its outline.  Declaring stops at the first line
of the outline that is refused, and leaves behind what declaring the lines
before it leaves: the specification that is cut off there.
-/

namespace ApiContract

/-- Read a property without its own properties: its name, and the slot that stands for it
first. -/
def Property.read (name : Value) (options : Options) (inside : Bool) :
    Except Failure (String × Slot Node) :=
  (options.ownFrom inside ["name"]).bind fun own =>
    (Property.ofOptions own).toExcept.bind fun slot =>
      name.shown.map fun key => (key, slot)

/-- A line of an outline: how deep a node stands, under which name, with which options, and whether
its properties are given while it is being declared. -/
structure Line where
  depth : Nat
  name : Value
  options : Options
  inside : Bool

namespace Line

/-- What a line is read as. -/
def read (line : Line) : Except Failure (String × Slot Node) :=
  Property.read line.name line.options line.inside

/-- A line is refused with a failure: the node does not come to stand. -/
def Refused (line : Line) (f : Failure) : Prop :=
  line.read = .error f

/-- A line is accepted: the node comes to stand, and what its options name can be called with
it. -/
def Accepted (line : Line) : Prop :=
  (∃ property, line.read = .ok property) ∧ line.options.callFault? = none

end Line

namespace NodeSpec

/-- What holds of no specifications, and of a specification followed by others whenever it holds of
its properties and of the others, holds of all specifications. -/
@[elab_as_elim]
theorem forestInduction {motive : List (Value × NodeSpec) → Prop} (nil : motive [])
    (cons : ∀ name spec rest, motive spec.properties → motive rest → motive ((name, spec) :: rest))
    (specs : List (Value × NodeSpec)) : motive specs :=
  @NodeSpec.rec_1 (fun spec => motive spec.properties) motive
    (fun named => motive named.2.properties)
    (fun _ _ _ properties => properties) nil (fun named rest => cons named.1 named.2 rest)
    (fun _ _ properties => properties) specs

mutual

/-- The nodes of a specification under a name, in the order in which they are declared. -/
def outline (depth : Nat) (name : Value) : NodeSpec → List Line
  | .mk options inside properties =>
    ⟨depth, name, options, inside⟩ :: outlines (depth + 1) properties

/-- The nodes of named specifications, in the order in which they are declared. -/
def outlines (depth : Nat) : List (Value × NodeSpec) → List Line
  | [] => []
  | (name, spec) :: rest => outline depth name spec ++ outlines depth rest

end

/-- The lines of a specification below its root. -/
def lines (spec : NodeSpec) : List Line :=
  outlines 0 spec.properties

mutual

/-- A specification that is cut off after a number of lines below its root. -/
def cut (count : Nat) : NodeSpec → NodeSpec
  | .mk options inside properties => .mk options inside (cutAll count properties)

/-- Named specifications that are cut off after a number of lines. -/
def cutAll : Nat → List (Value × NodeSpec) → List (Value × NodeSpec)
  | 0, _ | _ + 1, [] => []
  | count + 1, (name, spec) :: rest =>
    (name, cut count spec) :: cutAll (count - spec.lines.length) rest

end

@[simp]
theorem options_mk (options : Options) (inside : Bool) (properties : List (Value × NodeSpec)) :
    (mk options inside properties).options = options :=
  rfl

@[simp]
theorem inside_mk (options : Options) (inside : Bool) (properties : List (Value × NodeSpec)) :
    (mk options inside properties).inside = inside :=
  rfl

@[simp]
theorem properties_mk (options : Options) (inside : Bool) (properties : List (Value × NodeSpec)) :
    (mk options inside properties).properties = properties :=
  rfl

theorem outline_eq_cons (depth : Nat) (name : Value) (spec : NodeSpec) :
    outline depth name spec =
      ⟨depth, name, spec.options, spec.inside⟩ :: outlines (depth + 1) spec.properties := by
  cases spec
  rw [outline]
  rfl

theorem outlines_cons (depth : Nat) (name : Value) (spec : NodeSpec)
    (rest : List (Value × NodeSpec)) :
    outlines depth ((name, spec) :: rest) =
      ⟨depth, name, spec.options, spec.inside⟩ ::
        (outlines (depth + 1) spec.properties ++ outlines depth rest) := by
  rw [outlines, outline_eq_cons, List.cons_append]

theorem cut_eq_mk (count : Nat) (spec : NodeSpec) :
    spec.cut count = .mk spec.options spec.inside (cutAll count spec.properties) := by
  cases spec
  rw [cut]
  rfl

/-- How many lines there are does not depend on how deep the first stands. -/
theorem length_outlines (specs : List (Value × NodeSpec)) (depth : Nat) :
    (outlines depth specs).length = (outlines 0 specs).length := by
  suffices ∀ depth other, (outlines depth specs).length = (outlines other specs).length from
    this depth 0
  induction specs using forestInduction with
  | nil => simp [outlines]
  | cons name spec rest inside later =>
      intro depth other
      simp [outlines_cons, inside (depth + 1) (other + 1), later depth other]

theorem length_outlines_properties (spec : NodeSpec) (depth : Nat) :
    (outlines depth spec.properties).length = spec.lines.length :=
  length_outlines spec.properties depth

/-! ### Cutting off -/

/-- What is cut off after a number of lines has so many of the lines. -/
theorem outlines_cutAll (specs : List (Value × NodeSpec)) (depth count : Nat) :
    outlines depth (cutAll count specs) = (outlines depth specs).take count := by
  induction specs using forestInduction generalizing depth count with
  | nil => cases count <;> simp [cutAll, outlines]
  | cons name spec rest inside later =>
      cases count with
      | zero => simp [cutAll, outlines]
      | succ count =>
          rw [cutAll, cut_eq_mk, outlines_cons, outlines_cons, List.take_succ_cons,
            List.take_append, length_outlines_properties, options_mk, inside_mk, properties_mk,
            inside, later]

theorem lines_cut (count : Nat) (spec : NodeSpec) :
    (spec.cut count).lines = spec.lines.take count := by
  rw [cut_eq_mk]
  exact outlines_cutAll spec.properties 0 count

/-- Nothing is cut off after all lines. -/
theorem cutAll_eq_self (specs : List (Value × NodeSpec)) {count : Nat}
    (all : (outlines 0 specs).length ≤ count) : cutAll count specs = specs := by
  induction specs using forestInduction generalizing count with
  | nil => cases count <;> rw [cutAll]
  | cons name spec rest inside later =>
      rw [outlines_cons, List.length_cons, List.length_append, length_outlines_properties] at all
      obtain ⟨less, rfl⟩ : ∃ less, count = less + 1 := ⟨count - 1, by omega⟩
      have whole : spec.cut less = spec := by
        rw [cut_eq_mk, inside (by rw [← lines]; omega)]
        cases spec
        rfl
      rw [cutAll, whole, later (by omega)]

/-! ### Declaring line by line -/

/-- A property is read, and then its own properties are declared on it. -/
theorem declareProperty_eq_map (name : Value) (spec : NodeSpec) :
    declareProperty name spec =
      (Property.read name spec.options spec.inside).map fun property =>
        (property.1, ⟨property.2.required, (spec.declareOn property.2.content).1⟩,
          (spec.declareOn property.2.content).2) := by
  rcases spec with ⟨options, inside, properties⟩
  rw [declareProperty]
  simp only [Property.read, Attempt.map_bind, Attempt.map_map, options_mk, inside_mk, declareOn,
    properties_mk]
  cases Options.callFault? options <;> simp only [Attempt.bind_ok_eq_map]

variable {f : Failure}

/-- A property whose line is refused is not declared. -/
theorem declareProperty_of_refused {depth : Nat} {name : Value} {spec : NodeSpec}
    (refused : Line.Refused ⟨depth, name, spec.options, spec.inside⟩ f) :
    declareProperty name spec = .error f := by
  rw [declareProperty_eq_map, ← Line.read.eq_1 ⟨depth, name, spec.options, spec.inside⟩, refused]
  rfl

/-- A property whose line is accepted comes to stand with its own properties, and then the others
are declared unless its own stopped. -/
theorem declareProperties_cons {name : Value} {spec : NodeSpec} {key : String} {slot : Slot Node}
    (read : Property.read name spec.options spec.inside = .ok (key, slot))
    (callable : spec.options.callFault? = none) (n : Node) (rest : List (Value × NodeSpec)) :
    declareProperties n ((name, spec) :: rest) =
      let (content, failure) := declareProperties slot.content spec.properties
      let declared := n.putProperty key ⟨slot.required, content⟩
      match failure with
      | some f => (declared, some f)
      | none => declareProperties declared rest := by
  rw [declareProperties, declareProperty_eq_map, read]
  simp only [Except.map, declareOn, callable]
  rcases declareProperties slot.content spec.properties with ⟨content, _ | f⟩ <;> rfl

/-- If all lines are accepted, declaring does not stop. -/
theorem declareProperties_of_accepted {specs : List (Value × NodeSpec)} {depth : Nat}
    (accepted : ∀ line ∈ outlines depth specs, line.Accepted) (n : Node) :
    (declareProperties n specs).2 = none := by
  induction specs using forestInduction generalizing depth n with
  | nil => rw [declareProperties]
  | cons name spec rest inside later =>
      rw [outlines_cons, List.forall_mem_cons, List.forall_mem_append] at accepted
      obtain ⟨⟨⟨⟨key, slot⟩, read⟩, callable⟩, below, others⟩ := accepted
      rw [declareProperties_cons read callable]
      simp only [inside below]
      exact later others _

/-- An item of two lists, one after the other, stands in the first or in the second. -/
theorem split_of_append {α : Type} {first second before after : List α} {a : α}
    (split : first ++ second = before ++ a :: after) :
    (∃ others, first = before ++ a :: others) ∨
      ∃ others, before = first ++ others ∧ second = others ++ a :: after := by
  rcases List.append_eq_append_iff.mp split with ⟨others, whole, later⟩ | ⟨others, whole, later⟩
  · exact .inr ⟨others, whole, later⟩
  · cases others with
    | nil => exact .inr ⟨[], by simpa using whole.symm, by simpa using later.symm⟩
    | cons other others =>
        obtain ⟨rfl, -⟩ := List.cons.inj later
        exact .inl ⟨others, whole⟩

/-- Where one line is refused and all lines before it are accepted, declaring stops with the failure
of this line, and leaves behind what declaring the lines before it leaves. -/
theorem declareProperties_of_refused {specs : List (Value × NodeSpec)} {depth : Nat}
    {before after : List Line} {line : Line}
    (split : outlines depth specs = before ++ line :: after)
    (accepted : ∀ earlier ∈ before, earlier.Accepted) (refused : line.Refused f) (n : Node) :
    declareProperties n specs =
      ((declareProperties n (cutAll before.length specs)).1, some f) := by
  induction specs using forestInduction generalizing depth before after n with
  | nil => simp [outlines] at split
  | cons name spec rest inside later =>
      rw [outlines_cons] at split
      rcases before with _ | ⟨root, before⟩
      · obtain ⟨rfl, -⟩ := List.cons.inj split
        rw [declareProperties, declareProperty_of_refused refused, List.length_nil, cutAll,
          declareProperties]
      obtain ⟨rfl, tail⟩ := List.cons.inj split
      obtain ⟨⟨⟨⟨key, slot⟩, read⟩, callable⟩, earlier⟩ := List.forall_mem_cons.mp accepted
      have kept : (spec.cut before.length).options.callFault? = none := by
        rwa [cut_eq_mk, options_mk]
      have readKept : Property.read name (spec.cut before.length).options
          (spec.cut before.length).inside = .ok (key, slot) := by
        rwa [cut_eq_mk, options_mk, inside_mk]
      rw [List.length_cons, cutAll, declareProperties_cons read callable,
        declareProperties_cons readKept kept, cut_eq_mk, properties_mk]
      -- The refused line stands below this root, or among the lines of the others.
      rcases split_of_append tail with ⟨others, inProperties⟩ | ⟨others, rfl, inRest⟩
      · have complete : (declareProperties slot.content
            (cutAll before.length spec.properties)).2 = none := by
          refine @declareProperties_of_accepted _ (depth + 1) ?_ _
          rw [outlines_cutAll, inProperties, List.take_left]
          exact earlier
        have nothing : before.length - spec.lines.length = 0 := by
          rw [← length_outlines_properties spec (depth + 1), inProperties]
          simp
        rw [inside inProperties earlier]
        simp only [complete, nothing, cutAll, declareProperties_nil]
      · obtain ⟨below, earlier⟩ := List.forall_mem_append.mp earlier
        have complete := declareProperties_of_accepted below slot.content
        have whole :
            cutAll (outlines (depth + 1) spec.properties ++ others).length spec.properties =
              spec.properties := by
          apply cutAll_eq_self
          rw [List.length_append, length_outlines _ (depth + 1)]
          omega
        have left : (outlines (depth + 1) spec.properties ++ others).length - spec.lines.length =
            others.length := by
          rw [List.length_append, length_outlines_properties]
          omega
        rw [whole, left]
        simp only [complete]
        exact later inRest earlier _

/-- A specification of which a line below the root is refused is declared as far as the one that is
cut off there, which is declared without failure. -/
theorem declareOn_of_refused {spec : NodeSpec} {before after : List Line} {line : Line}
    (callable : spec.options.callFault? = none) (split : spec.lines = before ++ line :: after)
    (accepted : ∀ earlier ∈ before, earlier.Accepted) (refused : line.Refused f) (n : Node) :
    spec.declareOn n = (((spec.cut before.length).declareOn n).1, some f) ∧
      ((spec.cut before.length).declareOn n).2 = none := by
  simp only [declareOn, cut_eq_mk, options_mk, properties_mk, callable]
  constructor
  · exact declareProperties_of_refused split accepted refused n
  · refine @declareProperties_of_accepted _ 0 ?_ n
    rw [outlines_cutAll, ← lines, split, List.take_left]
    exact accepted

end NodeSpec

end ApiContract
