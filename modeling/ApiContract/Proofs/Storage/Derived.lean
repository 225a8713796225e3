import ApiContract.Proofs.Attempt
import ApiContract.Proofs.Entries
import ApiContract.Proofs.Registry.Additions
import ApiContract.Proofs.Registry.Growth
import ApiContract.Proofs.Value.Parts

/-!
# What is derived from a storage

Where nothing is declared beforehand, a derived component is an object whose
properties are the attributes that become one: those that are associations, and
those that are none and have a column.  Each becomes a property of its own, once,
and a derivation that does not fail knows the types of all columns that it meets.
-/

namespace ApiContract

/-- A mapping has a key if something is found under it. -/
theorem Entries.has_iff {κ α : Type} [BEq κ] {entries : Entries κ α} {k : κ} :
    entries.has k = true ↔ (entries.get? k).isSome = true := by
  simp [has, get?]

namespace Storage

/-- An attribute becomes a property with some facets: those of its association, or of its column if
it is no association. -/
inductive Becomes (s : Storage) (attr : String) : Facets → Prop
  | association {a : Association} (found : s.associations.get? attr = some a) :
      Becomes s attr a.facets
  | column {c : Column} {f : Facets} (alone : s.associations.get? attr = none)
      (found : s.columns.get? attr = some c) (known : c.facets = .ok f) : Becomes s attr f

variable {s : Storage} {place attr owner : String}

/-- The type of a column is unknown only as that. -/
theorem facets_eq_error {c : Column} {f : Failure} (unknown : c.facets = .error f) :
    f = .unknownColumnType c.sqlType none := by
  rw [Column.facets, SqlType.kind] at unknown
  split at unknown
  · cases unknown
  · cases unknown
    rfl

/-- An attribute becomes a property, or is neither an association nor has a column, or its column
has an unknown type. -/
theorem facets?_cases (s : Storage) (place attr : String) :
    (∃ f, s.Becomes attr f ∧ s.facets? place attr = .ok (some f)) ∨
      (s.associations.get? attr = none ∧ s.columns.get? attr = none ∧
        s.facets? place attr = .ok none) ∨
      ∃ sqlType, s.facets? place attr = .error (.unknownColumnType sqlType (some place)) := by
  rw [facets?]
  cases association : s.associations.get? attr with
  | some a => exact Or.inl ⟨_, .association association, rfl⟩
  | none =>
      cases column : s.columns.get? attr with
      | none => exact Or.inr (Or.inl ⟨rfl, rfl, rfl⟩)
      | some c =>
          cases known : c.facets with
          | ok f => exact Or.inl ⟨f, .column association column known, by simp [known]⟩
          | error failure =>
              obtain rfl := facets_eq_error known
              exact Or.inr (Or.inr ⟨c.sqlType, by simp [known]⟩)

/-- What deriving says of an attribute is what it becomes. -/
theorem facets?_eq_ok_some_iff {f : Facets} :
    s.facets? place attr = .ok (some f) ↔ s.Becomes attr f := by
  constructor
  · intro derived
    rcases s.facets?_cases place attr with ⟨g, becomes, equal⟩ | ⟨-, -, equal⟩ | ⟨_, equal⟩
    · cases equal.symm.trans derived
      exact becomes
    · cases equal.symm.trans derived
    · cases equal.symm.trans derived
  · intro becomes
    cases becomes with
    | association found => simp [facets?, found]
    | column alone found known => simp [facets?, alone, found, known]

/-- An attribute becomes one property at most. -/
theorem Becomes.unique {f g : Facets} (first : s.Becomes attr f) (second : s.Becomes attr g) :
    f = g := by
  have derived : s.facets? attr attr = .ok (some f) := facets?_eq_ok_some_iff.mpr first
  rw [facets?_eq_ok_some_iff.mpr second] at derived
  exact (Option.some.inj (Except.ok.inj derived)).symm

/-- An attribute of which nothing is derived has no column. -/
theorem columns_of_facets?_eq_ok_none (derived : s.facets? place attr = .ok none) :
    s.associations.get? attr = none ∧ s.columns.get? attr = none := by
  rcases s.facets?_cases place attr with ⟨_, -, equal⟩ | ⟨association, column, -⟩ | ⟨_, equal⟩
  · cases equal.symm.trans derived
  · exact ⟨association, column⟩
  · cases equal.symm.trans derived

/-! ### Attributes one by one -/

/-- What deriving a property from an attribute comes to says whether it is declared already, and
whether it becomes a property. -/
theorem deriveProperty_eq_ok {n : Node} {given : Value} (string : given.isString = true)
    {d : Derived} (derived : s.deriveProperty owner n given = .ok d) :
    match d with
    | .declared => ∃ attr slot, given = .str attr ∧ n.properties.get? attr = some slot
    | .nothing _ => ∀ attr, given = .str attr →
        s.associations.get? attr = none ∧ s.columns.get? attr = none
    | .property name f => given = .str name ∧ n.properties.get? name = none ∧ s.Becomes name f := by
  cases given with
  | unpaired codes =>
      cases derived
      simp
  | str attr =>
      rw [deriveProperty, if_neg (by simp [Value.isKey])] at derived
      split at derived
      · rename_i declared
        cases derived
        have found : (n.properties.get? attr).isSome = true := Entries.has_iff.mp declared
        obtain ⟨slot, found⟩ := Option.isSome_iff_exists.mp found
        exact ⟨attr, slot, rfl, found⟩
      · rename_i undeclared
        have fresh : n.properties.get? attr = none :=
          Option.not_isSome_iff_eq_none.mp (mt Entries.has_iff.mpr undeclared)
        obtain ⟨_, shown, derived⟩ := Attempt.bind_eq_ok_iff.mp derived
        cases shown
        obtain ⟨facets, facetsEq, rfl⟩ := Attempt.map_eq_ok_iff.mp derived
        cases facets with
        | none =>
            rintro _ ⟨⟩
            exact columns_of_facets?_eq_ok_none facetsEq
        | some f => exact ⟨rfl, fresh, facets?_eq_ok_some_iff.mp facetsEq⟩
  | _ => simp [Value.isString] at string

/-- A property is added to a node from attributes: it was not declared before, and one of them
becomes it. -/
def Adds (s : Storage) (attributes : List Value) (n : Node) (name : String) (slot : Slot Node) :
    Prop :=
  n.properties.get? name = none ∧ .str name ∈ attributes ∧
    ∃ f, s.Becomes name f ∧ slot = ⟨true, .mk f []⟩

/-- A node is derived from another by attributes: to the properties that were declared before, those
are added that the attributes become, and the types of the columns that are met are known. -/
structure Derives (s : Storage) (attributes : List Value) (n m : Node) : Prop where
  found : ∀ name slot, m.properties.get? name = some slot ↔
    n.properties.get? name = some slot ∨ s.Adds attributes n name slot
  known : ∀ name c, .str name ∈ attributes → n.properties.get? name = none →
    s.associations.get? name = none → s.columns.get? name = some c → ∃ f, c.facets = .ok f

namespace Derives

variable {attributes : List Value} {n m : Node}

theorem refl (s : Storage) (n : Node) : s.Derives [] n n where
  found name slot := by simp [Adds]
  known name c listed := absurd listed List.not_mem_nil

/-- An attribute that is declared already, or becomes nothing, adds nothing. -/
theorem skip {given : Value} (later : s.Derives attributes n m)
    (idle : ∀ attr, given = .str attr → n.properties.get? attr = none →
      s.associations.get? attr = none ∧ s.columns.get? attr = none) :
    s.Derives (given :: attributes) n m := by
  constructor
  · intro name slot
    rw [later.found]
    apply or_congr_right
    constructor
    · rintro ⟨fresh, listed, becomes⟩
      exact ⟨fresh, List.mem_cons_of_mem _ listed, becomes⟩
    · rintro ⟨fresh, listed, f, becomes, equal⟩
      rcases List.mem_cons.mp listed with here | listed
      · obtain ⟨association, column⟩ := idle name here.symm fresh
        cases becomes with
        | association found => simp [association] at found
        | column _ found _ => simp [column] at found
      · exact ⟨fresh, listed, f, becomes, equal⟩
  · intro name c listed fresh alone found
    rcases List.mem_cons.mp listed with here | listed
    · obtain ⟨-, column⟩ := idle name here.symm fresh
      simp [column] at found
    · exact later.known name c listed fresh alone found

/-- An attribute that becomes a property is added before those after it. -/
theorem cons {f : Facets} (fresh : n.properties.get? attr = none) (becomes : s.Becomes attr f)
    (later : s.Derives attributes (n.putProperty attr ⟨true, .mk f []⟩) m) :
    s.Derives (.str attr :: attributes) n m := by
  have other {name : String} (different : name ≠ attr) :
      (n.putProperty attr ⟨true, .mk f []⟩).properties.get? name = n.properties.get? name := by
    rw [Node.properties_putProperty, Entries.get?_put_of_ne _ _ different]
  constructor
  · intro name slot
    rw [later.found]
    by_cases same : name = attr
    · subst same
      have here : (n.putProperty name ⟨true, .mk f []⟩).properties.get? name =
          some ⟨true, .mk f []⟩ := by
        rw [Node.properties_putProperty, Entries.get?_put_self]
      simp only [Adds, here, fresh, List.mem_cons_self, reduceCtorEq, false_and, or_false,
        false_or, true_and]
      constructor
      · intro equal
        exact ⟨f, becomes, (Option.some.inj equal).symm⟩
      · rintro ⟨g, other, rfl⟩
        rw [becomes.unique other]
    · rw [Adds, Adds, other same]
      simp [same]
  · intro name c listed absent alone found
    by_cases same : name = attr
    · subst same
      cases becomes with
      | association association => simp [alone] at association
      | column _ column known =>
          obtain rfl := Option.some.inj (column.symm.trans found)
          exact ⟨f, known⟩
    · have listed : .str name ∈ attributes := by simpa [same] using listed
      exact later.known name c listed ((other same).trans absent) alone found

end Derives

/-- What is derived without failure is derived by the attributes. -/
theorem derives_deriveProperties {attributes : List Value}
    (strings : ∀ a ∈ attributes, a.isString = true) {n m : Node} {log : List LogLine}
    (done : s.deriveProperties owner n attributes = (m, none, log)) :
    s.Derives attributes n m := by
  induction attributes generalizing n m log with
  | nil =>
      cases done
      exact .refl s n
  | cons given rest ih =>
      obtain ⟨string, others⟩ := List.forall_mem_cons.mp strings
      rw [deriveProperties] at done
      split at done
      · cases done
      · rename_i derived
        rcases deriveProperty_eq_ok string derived with ⟨attr, slot, rfl, found⟩
        apply (ih others done).skip
        rintro _ ⟨⟩ fresh
        simp [found] at fresh
      · rename_i derived
        simp only [Prod.mk.injEq] at done
        rcases done with ⟨rfl, failure, -⟩
        exact (ih others (by rw [← failure])).skip fun attr equal _ =>
          deriveProperty_eq_ok string derived attr equal
      · rename_i derived
        rcases deriveProperty_eq_ok string derived with ⟨rfl, fresh, becomes⟩
        exact .cons fresh becomes (ih others done)

end Storage

/-! ### Derivations -/

/-- A derivation of a component from the attributes of a resource and what is known about its
storage.  Nothing is declared beforehand. -/
structure Derivation where
  name : Value
  attributes : List Value
  storage : Storage

namespace Derivation

/-- The call that derives the component. -/
def call (d : Derivation) : Call :=
  .derive d.name (.list d.attributes) d.storage []

/-- An object of which nothing is declared yet. -/
def object : Node :=
  .mk { Facets.blank with type := .named "object" } []

theorem distinct_object : object.Distinct := by
  simp [object]

/-- A derivation gives a component: an object of its name, with the properties that the attributes
become. -/
structure Gives (d : Derivation) (c : Component) : Prop where
  name : d.name.shown = .ok c.name
  facets : c.node.facets = object.facets
  distinct : c.node.Distinct
  derives : d.storage.Derives d.attributes object c.node

/-- A component that is declared as an object, and as nothing else, is named by the text of its
name. -/
theorem ofOptions_object (name : Value) :
    Component.ofOptions ((.str "name", name) :: Options.ofEntries [("type", .str "object")]) =
      (name.checkShown.within "name").map fun text => ⟨text, object⟩ := by
  have node : Node.ofOptions ((.str "name", name) :: Options.ofEntries [("type", .str "object")]) =
      .valid object := rfl
  have named : Options.mandatory
      ((.str "name", name) :: Options.ofEntries [("type", .str "object")]) "name"
        Value.checkShown = name.checkShown.within "name" := rfl
  rw [Component.ofOptions, node, named]
  cases name.checkShown with
  | valid text => rfl
  | refused problems => exact congrArg Checked.refused (List.append_nil _)

/-- Declaring such a component answers with it. -/
theorem answer_component_object {r : Registry} {name : Value} {c : Component}
    (declared : (r.component name
      (.mk (Options.ofEntries [("type", .str "object")]) true [])).answer = .ok c) :
    name.shown = .ok c.name ∧ c.node = object := by
  have own : (NodeSpec.mk (Options.ofEntries [("type", .str "object")]) true []).own ["name"] =
      .ok (Options.ofEntries [("type", .str "object")]) := rfl
  simp only [Registry.component, own, Except.bind, ofOptions_object, Value.checkShown] at declared
  rw [Value.shown]
  cases text : name.display? with
  | none =>
      rw [text] at declared
      cases declared
  | some text =>
      rw [text] at declared
      cases declared
      exact ⟨rfl, rfl⟩

/-- A derivation that answers adds the component that it gives. -/
theorem exists_of_answer {r : Registry} {d : Derivation}
    (strings : ∀ a ∈ d.attributes, a.isString = true) {shown : Declared}
    (answer : (r.call d.call).answer = .ok shown) :
    ∃ c, (r.call d.call).registry = { r with components := r.components ++ [c] } ∧ d.Gives c := by
  simp only [call, Registry.call, Outcome.shown, Registry.derive] at answer ⊢
  split at answer
  · rename_i failed
    simp [failed] at answer
  · rename_i c declared
    obtain ⟨named, object⟩ := answer_component_object declared
    simp only [Value.items?] at answer ⊢
    rcases done : d.storage.deriveProperties c.name c.node d.attributes with ⟨n, failure, log⟩
    simp only [done, answerUnless] at answer ⊢
    cases failure with
    | some failure => simp [Except.map] at answer
    | none =>
        have facets := Registry.facets_deriveProperties d.storage c.name d.attributes c.node
        have distinct := Registry.distinct_of_deriveProperties d.storage c.name d.attributes
          (object ▸ distinct_object : c.node.Distinct)
        rw [done] at facets distinct
        refine ⟨{ c with node := n }, rfl, named, ?_, distinct, ?_⟩
        · rw [facets, object]
        · exact object ▸ Storage.derives_deriveProperties strings done

/-- Derivations that all answer add the components that they give, in their order. -/
theorem exists_of_accepts {r last : Registry} {derivations : List Derivation}
    (strings : ∀ d ∈ derivations, ∀ a ∈ d.attributes, a.isString = true)
    (accepted : r.Accepts (derivations.map call) last) :
    ∃ components, List.Forall₂ Gives derivations components ∧
      last = { r with components := r.components ++ components } := by
  induction derivations generalizing r with
  | nil =>
      cases accepted
      exact ⟨[], .nil, by simp⟩
  | cons d rest ih =>
      obtain ⟨first, later⟩ := List.forall_mem_cons.mp strings
      cases accepted with
      | cons answer accepted =>
          obtain ⟨c, added, gives⟩ := exists_of_answer first answer
          rw [added] at accepted
          obtain ⟨components, pairs, rfl⟩ := ih later accepted
          exact ⟨c :: components, .cons gives pairs, by simp⟩

/-- Components are named by the texts of the names that derivations give them. -/
theorem names_of_gives {derivations : List Derivation} {components : List Component}
    (pairs : List.Forall₂ Gives derivations components) :
    derivations.map (·.name.shown) = (components.map (·.name)).map .ok := by
  induction pairs with
  | nil => rfl
  | cons head _ ih => rw [List.map_cons, List.map_cons, List.map_cons, ih, head.name]

end Derivation

end ApiContract
