import ApiContract.Proofs.Storage.Derived

/-!
# How far a derivation extends a component

A derivation goes through the attributes first to last.  An attribute that is not
declared becomes a property, at the end of those that stand, if it is an
association or has a column; it becomes none if it is neither.  The first whose
column has an unknown type stops the derivation.

All this is said of the node that was declared beforehand, though the derivation
looks at the node that it extends.  The difference is none: an attribute that was
added is declared from then on, so it is added once, and it could not have stopped
the derivation.
-/

namespace ApiContract

namespace Storage

/-- An attribute stops a derivation: it is not declared beforehand and no association, and it has a
column of an unknown type. -/
structure Stops (s : Storage) (configured : Node) (attr : String) (c : Column) : Prop where
  fresh : configured.properties.get? attr = none
  alone : s.associations.get? attr = none
  column : s.columns.get? attr = some c
  unknown : ∃ f, SqlType.kind c.sqlType = .error f

/-- Whether an attribute is not declared beforehand, and is an association or has a column. -/
def backs (s : Storage) (configured : Node) (attr : String) : Bool :=
  (configured.properties.get? attr).isNone &&
    ((s.associations.get? attr).isSome || (s.columns.get? attr).isSome)

/-- Properties are added to a node by attributes of which none stops: one for each that is backed,
where it stands first. -/
structure Extends (s : Storage) (configured : Node) (attributes : List Value)
    (added : Entries String (Slot Node)) : Prop where
  passes : ∀ attr c, .str attr ∈ attributes → ¬s.Stops configured attr c
  names : added.keys =
    ((attributes.filterMap Value.text?).filter (s.backs configured)).eraseDups
  becomes : ∀ e ∈ added, ∃ f, s.Becomes e.1 f ∧ e.2 = ⟨true, .mk f []⟩

variable {s : Storage} {n : Node} {attr owner place : String} {f : Facets}

/-- What becomes a property does not stop a derivation. -/
theorem Becomes.not_stops (becomes : s.Becomes attr f) (c : Column) : ¬s.Stops n attr c := by
  intro stops
  cases becomes with
  | association found => simp [stops.alone] at found
  | @column d f alone found known =>
      obtain rfl : c = d := Option.some.inj (stops.column.symm.trans found)
      rcases stops.unknown with ⟨failure, unknown⟩
      simp [Column.facets, unknown, Attempt.map_error] at known

/-- What becomes a property and is not declared beforehand is backed. -/
theorem Becomes.backs (becomes : s.Becomes attr f) (fresh : n.properties.get? attr = none) :
    s.backs n attr = true := by
  cases becomes with
  | association found => simp [Storage.backs, fresh, found]
  | column _ found _ => simp [Storage.backs, fresh, found]

/-- Once an attribute is added it is backed no more, and all others are as before. -/
theorem backs_putProperty (slot : Slot Node) (name : String) :
    s.backs (n.putProperty attr slot) name = (s.backs n name && !name == attr) := by
  by_cases same : name = attr
  · subst same
    simp [backs, Entries.get?_put_self]
  · simp [backs, Entries.get?_put_of_ne _ _ same, same]

/-- An attribute that is added later does not stop a derivation, and all others stop it as before. -/
theorem Stops.putProperty {name : String} {c : Column} (stops : s.Stops n name c)
    (other : name ≠ attr) (slot : Slot Node) : s.Stops (n.putProperty attr slot) name c where
  fresh := by rw [Node.properties_putProperty, Entries.get?_put_of_ne _ _ other, stops.fresh]
  alone := stops.alone
  column := stops.column
  unknown := stops.unknown

/-- What stops a derivation once an attribute was added stopped it before. -/
theorem Stops.of_putProperty {name : String} {c : Column} {slot : Slot Node}
    (stops : s.Stops (n.putProperty attr slot) name c) : s.Stops n name c where
  fresh := by
    have fresh := stops.fresh
    by_cases same : name = attr
    · subst same
      simp [Entries.get?_put_self] at fresh
    · rwa [Node.properties_putProperty, Entries.get?_put_of_ne _ _ same] at fresh
  alone := stops.alone
  column := stops.column
  unknown := stops.unknown

namespace Extends

variable {attributes : List Value} {added : Entries String (Slot Node)}

theorem nil (s : Storage) (n : Node) : s.Extends n [] [] where
  passes _ _ listed := absurd listed List.not_mem_nil
  names := rfl
  becomes _ listed := absurd listed List.not_mem_nil

/-- An attribute that is not backed adds nothing. -/
theorem skip {given : Value} (later : s.Extends n attributes added)
    (idle : ∀ name, given.text? = some name → s.backs n name = false) :
    s.Extends n (given :: attributes) added where
  passes name c listed := by
    rcases List.mem_cons.mp listed with rfl | listed
    · intro stops
      have unbacked := idle name rfl
      simp [backs, stops.fresh, stops.column] at unbacked
    · exact later.passes name c listed
  names := by
    rw [later.names]
    cases text : given.text? with
    | none => rw [List.filterMap_cons_none text]
    | some name =>
        rw [List.filterMap_cons_some text, List.filter_cons_of_neg (by simp [idle name text])]
  becomes := later.becomes

/-- An attribute that becomes a property adds it before those that are added after it. -/
theorem cons (fresh : n.properties.get? attr = none) (becomes : s.Becomes attr f)
    (later : s.Extends (n.putProperty attr ⟨true, .mk f []⟩) attributes added) :
    s.Extends n (.str attr :: attributes) ((attr, ⟨true, .mk f []⟩) :: added) where
  passes name c listed := by
    intro stops
    by_cases same : name = attr
    · subst same
      exact becomes.not_stops c stops
    · have listed : .str name ∈ attributes := by simpa [same] using listed
      exact later.passes name c listed (stops.putProperty same _)
  names := by
    have others : s.backs (n.putProperty attr ⟨true, .mk f []⟩) =
        fun name => s.backs n name && !name == attr :=
      funext (backs_putProperty _)
    have text : (Value.str attr).text? = some attr := rfl
    rw [Entries.keys_cons, later.names, others, List.filterMap_cons_some text,
      List.filter_cons_of_pos (becomes.backs fresh), List.eraseDups_cons, List.filter_filter]
    simp only [Bool.and_comm]
  becomes := List.forall_mem_cons.mpr ⟨⟨f, becomes, rfl⟩, later.becomes⟩

end Extends

/-- Nothing is derived from an attribute only if the type of its column is unknown. -/
theorem facets?_eq_error {failure : Failure} (refused : s.facets? place attr = .error failure) :
    ∃ c, s.associations.get? attr = none ∧ s.columns.get? attr = some c ∧
      (∃ f, SqlType.kind c.sqlType = .error f) ∧
      failure = .unknownColumnType c.sqlType (some place) := by
  rw [facets?] at refused
  cases alone : s.associations.get? attr with
  | some a => simp [alone] at refused
  | none =>
      cases column : s.columns.get? attr with
      | none => simp [alone, column] at refused
      | some c =>
          cases known : c.facets with
          | ok f => simp [alone, column, known] at refused
          | error unknown =>
              obtain rfl := facets_eq_error known
              refine ⟨c, rfl, rfl, ⟨_, Attempt.map_eq_error_iff.mp known⟩, ?_⟩
              simpa [alone, column, known] using refused.symm

/-- Deriving a property fails only at an attribute that stops the derivation. -/
theorem deriveProperty_eq_error {given : Value} (string : given.isString = true)
    {failure : Failure} (refused : s.deriveProperty owner n given = .error failure) :
    ∃ attr c, given = .str attr ∧ s.Stops n attr c ∧
      failure = .unknownColumnType c.sqlType (some (owner ++ "." ++ attr)) := by
  cases given with
  | unpaired codes => cases refused
  | str attr =>
      rw [deriveProperty, if_neg (by simp [Value.isKey])] at refused
      split at refused
      · cases refused
      · rename_i undeclared
        have fresh : n.properties.get? attr = none :=
          Option.not_isSome_iff_eq_none.mp (mt Entries.has_iff.mpr undeclared)
        have refused : s.facets? (owner ++ "." ++ attr) attr = .error failure :=
          Attempt.map_eq_error_iff.mp refused
        rcases facets?_eq_error refused with ⟨c, alone, column, unknown, rfl⟩
        exact ⟨attr, c, rfl, ⟨fresh, alone, column, unknown⟩, rfl⟩
  | _ => simp [Value.isString] at string

/-- What a derivation makes of a node, and the failure it ends with: it adds properties by all
attributes, or by those before the first that stops it. -/
inductive Reaches (s : Storage) (owner : String) (n : Node) (attributes : List Value) :
    Node → Option Failure → Prop
  | done {added : Entries String (Slot Node)} (extended : s.Extends n attributes added) :
      Reaches s owner n attributes (.mk n.facets (n.properties ++ added)) none
  | stopped {before after : List Value} {attr : String} {c : Column}
      {added : Entries String (Slot Node)} (split : attributes = before ++ .str attr :: after)
      (extended : s.Extends n before added) (stops : s.Stops n attr c) :
      Reaches s owner n attributes (.mk n.facets (n.properties ++ added))
        (some (.unknownColumnType c.sqlType (some (owner ++ "." ++ attr))))

namespace Reaches

variable {attributes : List Value} {m : Node} {failure : Option Failure}

/-- Before what a derivation makes of a node, an attribute that is not backed changes nothing. -/
theorem skip {given : Value} (later : s.Reaches owner n attributes m failure)
    (idle : ∀ name, given.text? = some name → s.backs n name = false) :
    s.Reaches owner n (given :: attributes) m failure := by
  cases later with
  | done extended => exact .done (extended.skip idle)
  | @stopped before after attr c added split extended stops =>
      have longer : given :: attributes = (given :: before) ++ .str attr :: after :=
        congrArg (given :: ·) split
      exact .stopped longer (extended.skip idle) stops

/-- An attribute that becomes a property is added before a derivation goes on. -/
theorem cons (fresh : n.properties.get? attr = none) (becomes : s.Becomes attr f)
    (later : s.Reaches owner (n.putProperty attr ⟨true, .mk f []⟩) attributes m failure) :
    s.Reaches owner n (.str attr :: attributes) m failure := by
  have atEnd (added : Entries String (Slot Node)) :
      (n.putProperty attr ⟨true, .mk f []⟩).properties ++ added =
        n.properties ++ (attr, ⟨true, .mk f []⟩) :: added := by
    rw [Node.properties_putProperty, Entries.put_of_not_mem (Entries.get?_eq_none_iff.mp fresh),
      List.append_assoc, List.singleton_append]
  cases later with
  | done extended =>
      rw [atEnd]
      exact .done (extended.cons fresh becomes)
  | @stopped before after name c added split extended stops =>
      have longer : .str attr :: attributes = (.str attr :: before) ++ .str name :: after :=
        congrArg (.str attr :: ·) split
      rw [atEnd]
      exact .stopped longer (extended.cons fresh becomes) stops.of_putProperty

end Reaches

/-- A derivation adds properties to a node up to the first attribute that stops it. -/
theorem reaches_deriveProperties (s : Storage) (owner : String) (n : Node)
    {attributes : List Value} (strings : ∀ a ∈ attributes, a.isString = true) :
    s.Reaches owner n attributes (s.deriveProperties owner n attributes).1
      (s.deriveProperties owner n attributes).2.1 := by
  induction attributes generalizing n with
  | nil =>
      have unchanged : s.Reaches owner n [] (.mk n.facets (n.properties ++ [])) none :=
        .done (.nil s n)
      rwa [List.append_nil, Node.mk_facets_properties] at unchanged
  | cons given rest ih =>
      rcases List.forall_mem_cons.mp strings with ⟨string, others⟩
      rw [deriveProperties]
      split
      · rename_i refused
        rcases deriveProperty_eq_error string refused with ⟨attr, c, rfl, stops, rfl⟩
        have stopped : s.Reaches owner n (.str attr :: rest) (.mk n.facets (n.properties ++ []))
            (some (.unknownColumnType c.sqlType (some (owner ++ "." ++ attr)))) :=
          .stopped rfl (.nil s n) stops
        rwa [List.append_nil, Node.mk_facets_properties] at stopped
      · rename_i declared
        rcases deriveProperty_eq_ok string declared with ⟨attr, slot, rfl, found⟩
        apply (ih n others).skip
        rintro _ ⟨⟩
        simp [backs, found]
      · rename_i nothing
        apply (ih n others).skip
        intro name text
        cases given with
        | str attr =>
            rcases deriveProperty_eq_ok string nothing attr rfl with ⟨association, column⟩
            cases text
            simp [backs, association, column]
        | tag => simp [Value.isString] at string
        | _ => cases text
      · rename_i derived
        rcases deriveProperty_eq_ok string derived with ⟨rfl, fresh, becomes⟩
        exact .cons fresh becomes (ih _ others)

end Storage

namespace Registry

/-- An object component is declared with properties that are given while it is being declared. -/
theorem component_object {r : Registry} {name : Value} {text : String}
    {properties : List (Value × NodeSpec)} {n : Node} (named : name.shown = .ok text)
    (configured : NodeSpec.declareProperties Derivation.object properties = (n, none)) :
    r.component name (.mk (Options.ofEntries [("type", .str "object")]) true properties) =
      ⟨{ r with components := r.components ++ [⟨text, n⟩] }, .ok ⟨text, n⟩,
        [registeredComponent ⟨text, Derivation.object⟩]⟩ := by
  have own : (NodeSpec.mk (Options.ofEntries [("type", .str "object")]) true properties).own
      ["name"] = .ok (Options.ofEntries [("type", .str "object")]) := rfl
  have checked : name.checkShown = .valid text := by
    rw [Value.shown] at named
    rw [Value.checkShown]
    cases displayed : name.display? with
    | none => simp [displayed] at named
    | some shown =>
        rw [displayed] at named
        cases named
        rfl
  have declared : (NodeSpec.mk (Options.ofEntries [("type", .str "object")]) true
      properties).declareOn Derivation.object = (n, none) := configured
  have read : ((Checked.within "name" (.valid text)).map
      fun text => (⟨text, Derivation.object⟩ : Component)).toExcept =
        .ok ⟨text, Derivation.object⟩ := rfl
  simp only [component, own, Except.bind, Derivation.ofOptions_object, checked, read, declared]
  rfl

/-- Deriving a component declares what is configured, and then adds properties by attributes.  It
fails exactly if an attribute stops it, and then for the first that does; the component that is left
behind has the properties that were added before. -/
theorem derive_extends {r : Registry} {name : Value} {text : String} {attributes : List Value}
    {properties : List (Value × NodeSpec)} {n : Node} (s : Storage)
    (named : name.shown = .ok text)
    (configured : NodeSpec.declareProperties Derivation.object properties = (n, none))
    (strings : ∀ a ∈ attributes, a.isString = true) :
    let derived := r.call (.derive name (.list attributes) s properties)
    ((∃ sqlType place, derived.answer = .error (.unknownColumnType sqlType place)) ↔
      ∃ attr c, .str attr ∈ attributes ∧ s.Stops n attr c) ∧
    ∃ before added, s.Extends n before added ∧
      let component := ⟨text, .mk Derivation.object.facets (n.properties ++ added)⟩
      derived.registry = { r with components := r.components ++ [component] } ∧
        (before = attributes ∧ derived.answer = .ok (.component component) ∨
          ∃ attr c after, attributes = before ++ .str attr :: after ∧ s.Stops n attr c ∧
            derived.answer =
              .error (.unknownColumnType c.sqlType (some (text ++ "." ++ attr)))) := by
  intro derived
  have facets : n.facets = Derivation.object.facets := by
    have kept := NodeSpec.facets_declareProperties Derivation.object properties
    rwa [configured] at kept
  have reached := s.reaches_deriveProperties text n strings
  have registryEq : derived.registry = { r with components := r.components ++
      [⟨text, (s.deriveProperties text n attributes).1⟩] } := by
    simp only [derived, call, Outcome.shown, derive, component_object named configured,
      Value.items?]
  have answerEq : derived.answer = (answerUnless (s.deriveProperties text n attributes).2.1
      (⟨text, (s.deriveProperties text n attributes).1⟩ : Component)).map .component := by
    simp only [derived, call, Outcome.shown, derive, component_object named configured,
      Value.items?]
  rw [registryEq, answerEq]
  generalize (s.deriveProperties text n attributes).1 = m at reached ⊢
  generalize (s.deriveProperties text n attributes).2.1 = failure at reached ⊢
  cases reached with
  | done extended =>
      refine ⟨iff_of_false ?_ ?_, attributes, _, extended, ?_⟩
      · rintro ⟨sqlType, place, refused⟩
        cases refused
      · rintro ⟨attr, c, listed, stops⟩
        exact extended.passes attr c listed stops
      · rw [facets]
        exact ⟨rfl, Or.inl ⟨rfl, rfl⟩⟩
  | @stopped before after attr c added split extended stops =>
      refine ⟨iff_of_true ⟨_, _, rfl⟩ ⟨attr, c, ?_, stops⟩, before, _, extended, ?_⟩
      · rw [split]
        exact List.mem_append_right _ List.mem_cons_self
      · rw [facets]
        exact ⟨rfl, Or.inr ⟨attr, c, after, split, stops, rfl⟩⟩

/-- A column of a type. -/
def column (sqlType : String) : Column :=
  ⟨sqlType, false, false, "", none⟩

/-- Books have an author, who is stored elsewhere, and a cover of a type that is unknown. -/
def bookStorage : Storage :=
  ⟨[("id", column "integer"), ("author", column "point"), ("pages", column "integer"),
      ("cover", column "polygon"), ("title", column "text")], [("author", ⟨"User"⟩)]⟩

/-- What is said of a book by itself: its number. -/
def bookProperties : List (Value × NodeSpec) :=
  [(.str "id", .leaf [("type", .str "string")])]

/-- A book as it is before its attributes are derived. -/
def numberedBook : Node :=
  .mk Derivation.object.facets [("id", ⟨true, .mk { Facets.blank with type := .named "string" } []⟩)]

/-- The attributes of a book, of which some are given twice and one is not stored. -/
def bookAttributes : List Value :=
  [.str "id", .str "author", .str "pages", .str "weight", .str "author", .str "cover", .str "title"]

/-- Books are derived up to their cover: the author and the pages come after the number that was
declared, and the title is not there. -/
theorem derive_extends_books :
    let derived := empty.call (.derive (.str "Book") (.list bookAttributes) bookStorage
      bookProperties)
    (Value.str "Book").shown = .ok "Book" ∧
      NodeSpec.declareProperties Derivation.object bookProperties = (numberedBook, none) ∧
      (∀ a ∈ bookAttributes, a.isString = true) ∧
      bookStorage.Stops numberedBook "cover" (column "polygon") ∧
      (∃ sqlType place, derived.answer = .error (.unknownColumnType sqlType place)) ∧
      derived.registry.components.map (·.node.properties.keys) = [["id", "author", "pages"]] := by
  have named : (Value.str "Book").shown = .ok "Book" := rfl
  have configured : NodeSpec.declareProperties Derivation.object bookProperties =
      (numberedBook, none) := rfl
  have strings : ∀ a ∈ bookAttributes, a.isString = true := by decide
  have stops : bookStorage.Stops numberedBook "cover" (column "polygon") :=
    ⟨rfl, rfl, rfl, _, rfl⟩
  rcases derive_extends (r := empty) bookStorage named configured strings with ⟨refused, -⟩
  exact ⟨named, configured, strings, stops,
    refused.mpr ⟨"cover", _, by decide, stops⟩, rfl⟩

end Registry

end ApiContract
