import ApiContract.Proofs.Schema.Completed
import ApiContract.Proofs.Schema.Outline
import ApiContract.Proofs.Value.HandedOut

/-!
# Three ways to declare a tree

The properties of a node may be given while it is being declared, or to the
finished node, or with its options as dictionaries of options.  All three build
the same tree from valid options: the first two by storing properties in the
node one by one, the third by storing the dictionaries of options under their
names and reading what is there in the end.  So a name that is repeated has its
first place and what is last declared under it.
-/

namespace ApiContract

/-- A tree of options: those of a node, and those of its properties by name. -/
inductive NodeTree where
  | mk (options : List (Value × Value)) (children : List (String × NodeTree))

/-- Properties as an option.  There is none where there are no properties. -/
def Options.nested : List (Value × Value) → Options
  | [] => []
  | entry :: rest => [(.str propertiesName, Value.dictOf (entry :: rest))]

namespace NodeTree

/-- The options of the root. -/
def options : NodeTree → Options
  | .mk options _ => options

/-- The trees of the properties, with their names. -/
def children : NodeTree → List (String × NodeTree)
  | .mk _ children => children

@[simp]
theorem options_mk (options : Options) (children : List (String × NodeTree)) :
    (mk options children).options = options :=
  rfl

@[simp]
theorem children_mk (options : Options) (children : List (String × NodeTree)) :
    (mk options children).children = children :=
  rfl

mutual

/-- A tree as a specification, of which all properties are given while their nodes are being
declared, or to the finished nodes. -/
def spec (inside : Bool) : NodeTree → NodeSpec
  | .mk options children => .mk options inside (specs inside children)

/-- Named trees as specifications. -/
def specs (inside : Bool) : List (String × NodeTree) → List (Value × NodeSpec)
  | [] => []
  | (name, t) :: rest => (.str name, spec inside t) :: specs inside rest

end

mutual

/-- A tree as options, of which all properties are given as dictionaries of options. -/
def given : NodeTree → Options
  | .mk options children => options ++ Options.nested (givens children)

/-- Named trees as dictionaries of options. -/
def givens : List (String × NodeTree) → List (Value × Value)
  | [] => []
  | (name, t) :: rest => (.str name, .dict (given t)) :: givens rest

end

/-- The options of all nodes of a tree are those of properties, and say nothing of properties of
their own. -/
inductive Valid : NodeTree → Prop
  | mk {options : Options} {children : List (String × NodeTree)} {slot : Slot Node}
      (own : Property.ofOptions options = .valid slot)
      (bare : options.get? Options.propertiesName = none)
      (below : ∀ child ∈ children, Valid child.2) : Valid (.mk options children)

/-- A tree gives a slot in all three ways. -/
structure Gives (t : NodeTree) (slot : Slot Node) : Prop where
  declared : ∀ inside name,
    NodeSpec.declareProperty (.str name) (t.spec inside) = .ok (name, slot, none)
  read : Property.ofValue (.dict t.given) = .valid slot

/-- Named trees give slots in all three ways, one after the other. -/
def Give (children : List (String × NodeTree)) (slots : List (String × Slot Node)) : Prop :=
  List.Forall₂ (fun child slot => child.1 = slot.1 ∧ child.2.Gives slot.2) children slots

/-! ### Properties as dictionaries -/

/-- An entry is read as a property. -/
def Reads (entry : Value × Value) (property : String × Slot Node) : Prop :=
  entry.1 = .str property.1 ∧ Property.ofValue entry.2 = .valid property.2

variable {entries more : List (Value × Value)} {slots others : List (String × Slot Node)}

theorem Give.reads {children : List (String × NodeTree)} (give : Give children slots) :
    List.Forall₂ Reads (givens children) slots := by
  induction give with
  | nil => exact .nil
  | @cons child slot children slots head tail ih =>
      rcases child with ⟨name, t⟩
      rw [givens]
      exact .cons ⟨congrArg Value.str head.1, head.2.read⟩ ih

/-- Storing entries and storing what they are read as go together. -/
theorem Reads.put {entry : Value × Value} {property : String × Slot Node}
    (read : Reads entry property) (reads : List.Forall₂ Reads entries slots) :
    List.Forall₂ Reads (Entries.put entries entry.1 entry.2)
      (Entries.put slots property.1 property.2) := by
  induction reads with
  | nil => exact .cons read .nil
  | @cons first slot entries slots head tail ih =>
      rcases first with ⟨key, v⟩
      rcases slot with ⟨name, there⟩
      obtain rfl : key = .str name := head.1
      have same : (Value.str name == entry.1) = (name == property.1) := by
        rw [Bool.eq_iff_iff, beq_iff_eq, beq_iff_eq, read.1, Value.str.injEq]
      rw [Entries.put_cons, Entries.put_cons, same]
      split
      · exact .cons ⟨rfl, read.2⟩ tail
      · exact .cons head ih

/-- So do storing lists of entries and storing lists of what they are read as. -/
theorem reads_putAll (reads : List.Forall₂ Reads entries slots)
    (readsMore : List.Forall₂ Reads more others) :
    List.Forall₂ Reads (Entries.putAll entries more) (Entries.putAll slots others) := by
  induction readsMore generalizing entries slots with
  | nil => exact reads
  | cons head _ ih => exact ih (head.put reads)

/-- Entries are read one by one. -/
theorem ofEntries_of_reads (reads : List.Forall₂ Reads entries slots) :
    Property.ofEntries entries = .valid slots := by
  induction reads with
  | nil => rw [Property.ofEntries]
  | @cons entry slot entries slots head tail ih =>
      rcases entry with ⟨key, v⟩
      obtain ⟨named, read⟩ : key = .str slot.1 ∧ Property.ofValue v = .valid slot.2 := head
      rw [Property.ofEntries, named, read, ih]
      rfl

/-- A dictionary that is made of entries is read as what storing their meanings makes. -/
theorem ofDictionary_of_reads (reads : List.Forall₂ Reads entries slots) :
    Property.ofDictionary (Value.dictOf entries) = .valid (Entries.ofList slots) := by
  have strings : ∀ entry ∈ entries, entry.1.isString = true := by
    intro entry member
    obtain ⟨slot, -, named, -⟩ := Attempt.exists_of_mem_left reads member
    rw [named]
    rfl
  have stored : Property.ofEntries (Entries.ofList entries) = .valid (Entries.ofList slots) :=
    ofEntries_of_reads (reads_putAll .nil reads)
  have once : Entries.ofList (Entries.ofList slots) = Entries.ofList slots :=
    Entries.ofList_eq_self (Entries.nodup_keys_ofList slots)
  rw [Value.dictOf_eq_ofList strings, Property.ofDictionary, stored]
  exact congrArg Checked.valid once

/-! ### The three ways -/

theorem onlyProperties_nested (entries : List (Value × Value)) :
    (Options.nested entries).OnlyProperties := by
  cases entries with
  | nil => exact fun _ member => absurd member List.not_mem_nil
  | cons entry rest =>
      intro option member
      rw [Options.nested, List.mem_singleton] at member
      rw [member]

/-- Properties are read from what comes after options that say nothing of them. -/
theorem properties_append_of_bare {options : Options}
    (bare : options.get? Options.propertiesName = none) (more : Options) :
    Options.properties (options ++ more) = Options.properties more := by
  rw [Options.get?_eq_none_iff] at bare
  induction options with
  | nil => rfl
  | cons option rest ih =>
      rcases option with ⟨name, v⟩
      obtain ⟨other, later⟩ := List.forall_mem_cons.mp bare
      have apart : (name == .str "properties") = false := by
        rw [beq_eq_false_iff_ne]
        rintro rfl
        exact other rfl
      rw [List.cons_append, Options.properties, apart, if_neg Bool.false_ne_true, ih later]

/-- Options that say nothing of properties are completed by nothing. -/
theorem completed_nil {options : Options} (bare : options.get? Options.propertiesName = none) :
    options.Completed [] [] := by
  have none : Options.properties options = .valid [] := by
    have read := properties_append_of_bare bare []
    rwa [List.append_nil, Options.properties] at read
  refine ⟨onlyProperties_nested [], none, ?_⟩
  rwa [List.append_nil]

/-- Trees that give slots complete options that say nothing of properties. -/
theorem Give.completed {options : Options} {children : List (String × NodeTree)}
    (bare : options.get? Options.propertiesName = none) (give : Give children slots) :
    options.Completed (Options.nested (givens children)) (Entries.ofList slots) := by
  refine ⟨onlyProperties_nested _, (completed_nil bare).bare, ?_⟩
  rw [properties_append_of_bare bare]
  cases give with
  | nil => rw [givens, Options.nested, Options.properties]; rfl
  | cons head tail =>
      have read := ofDictionary_of_reads (Give.reads (.cons head tail))
      rw [givens] at read ⊢
      rw [Options.nested, Options.properties, if_pos (by decide), read]
      rfl

/-- Properties that are declared one by one are stored one by one. -/
theorem Give.declareProperties {children : List (String × NodeTree)} (give : Give children slots)
    (inside : Bool) (n : Node) :
    NodeSpec.declareProperties n (specs inside children) =
      (.mk n.facets (Entries.putAll n.properties slots), none) := by
  induction give generalizing n with
  | nil =>
      rw [specs, NodeSpec.declareProperties_nil, Entries.putAll_nil, Node.mk_facets_properties]
  | @cons child slot children slots head tail ih =>
      rcases child with ⟨name, t⟩
      rcases slot with ⟨key, slot⟩
      obtain ⟨rfl, gives⟩ : name = key ∧ t.Gives slot := head
      rw [specs, NodeSpec.declareProperties, gives.declared]
      exact ih _

/-- Options that are read as a property are the options of its declaration, which names nothing else
to call. -/
theorem read_of_valid {options : Options} {slot : Slot Node}
    (valid : Property.ofOptions options = .valid slot) :
    options.callFault? = none ∧
      ∀ inside name, Property.read (.str name) options inside = .ok (name, slot) := by
  obtain ⟨own, once⟩ := Property.ownFrom_of_valid valid
  obtain ⟨-, callable, whole⟩ :=
    Options.ownFrom_append (onlyProperties_nested []) (by decide) once
  rw [Options.nested, List.append_nil] at callable whole
  refine ⟨callable, ?_⟩
  intro inside name
  rw [Property.read, whole, Attempt.ok_bind, valid]
  rfl

theorem give_of_gives {children : List (String × NodeTree)}
    (each : ∀ child ∈ children, ∃ slot, child.2.Gives slot) : ∃ slots, Give children slots := by
  apply Attempt.exists_forall₂
  intro child member
  obtain ⟨slot, gives⟩ := each child member
  exact ⟨(child.1, slot), rfl, gives⟩

/-- Options that say nothing of properties are read as a property without properties. -/
theorem properties_of_bare {options : Options} {slot : Slot Node}
    (valid : Property.ofOptions options = .valid slot)
    (bare : options.get? Options.propertiesName = none) : slot.content.properties = [] := by
  have same := Property.ofOptions_completed (completed_nil bare)
  rw [List.append_nil, valid] at same
  exact congrArg (fun slot => slot.content.properties) (Checked.valid.inj same)

/-- A tree gives what its options are read as, with the slots that its properties give. -/
theorem Give.gives {options : Options} {children : List (String × NodeTree)} {own : Slot Node}
    (valid : Property.ofOptions options = .valid own)
    (bare : options.get? Options.propertiesName = none) (give : Give children slots) :
    (mk options children).Gives (own.withProperties (Entries.ofList slots)) := by
  constructor
  · intro inside name
    obtain ⟨callable, readOwn⟩ := read_of_valid valid
    rw [NodeSpec.declareProperty_eq_map, spec, NodeSpec.options_mk, NodeSpec.inside_mk, readOwn,
      Attempt.map_ok, NodeSpec.declareOn, NodeSpec.options_mk, callable]
    simp only [NodeSpec.properties_mk, give.declareProperties, properties_of_bare valid bare]
    rfl
  · have read := Property.ofOptions_completed (Give.completed bare give)
    rw [valid] at read
    rw [given, Property.ofValue]
    exact read

/-- A tree of valid options gives a slot in all three ways. -/
theorem Valid.gives {t : NodeTree} (valid : t.Valid) : ∃ slot, t.Gives slot := by
  induction valid with
  | @mk options children own valid bare _ ih =>
      obtain ⟨slots, give⟩ := give_of_gives ih
      exact ⟨_, give.gives valid bare⟩

/-- Slots have the names of the trees that give them. -/
theorem Give.keys {children : List (String × NodeTree)} (give : Give children slots) :
    Entries.keys slots = children.map (·.1) := by
  induction give with
  | nil => rfl
  | cons head _ ih => rw [Entries.keys_cons, ih, List.map_cons, head.1]

/-- The slot that is found under a name is given by the tree that is found there. -/
theorem Give.get? {children : List (String × NodeTree)} (give : Give children slots) {name : String}
    {t : NodeTree} (found : Entries.get? children name = some t) :
    ∃ slot, Entries.get? slots name = some slot ∧ t.Gives slot := by
  induction give with
  | nil => simp at found
  | @cons child slot children slots head tail ih =>
      rcases child with ⟨here, tree⟩
      rcases slot with ⟨key, slot⟩
      obtain ⟨rfl, gives⟩ : here = key ∧ tree.Gives slot := head
      rw [Entries.get?_cons] at found ⊢
      split at found
      · cases found
        exact ⟨slot, if_pos ‹_›, gives⟩
      · rw [if_neg ‹_›]
        exact ih found

end NodeTree

end ApiContract
