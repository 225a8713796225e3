import ApiContract.Proofs.Schema.NodeTree
import ApiContract.Registry.Place

/-!
# Nodes from what they store

A node stores its options in one spelling each: types by their tags, flags as booleans,
components by their names, texts as they are displayed.  These are options again, those
of its properties being dictionaries of options under their names.  They are read back
as the same node, since no check changes what is in its one spelling.  This holds of
nodes of every kind and also after properties were added to them, at any depth.
-/

namespace ApiContract

/-- An option is read from the value that is found under its name. -/
theorem Options.optional_eq_valid {α : Type} {options : Options} {name : String} {v : Value}
    {default a : α} {check : Value → Checked α} (found : options.get? name = some v)
    (valid : check v = .valid a) : options.optional name default check = .valid a := by
  rw [optional, found]
  simp only [valid]
  rfl

/-! ### Facets -/

namespace Facets

/-- The options that facets are stored as. -/
def stored (f : Facets) : Options := [
  (.str "type", f.type.toValue),
  (.str "of", f.element.elim .null .str),
  (.str "description", .str f.description),
  (.str "as", f.reference.elim .null .str),
  (.str "enum", f.enumeration.elim .null .list),
  (.str "allowable_values", f.allowable.elim .null .list),
  (.str "nullable", .bool f.nullable)]

theorem checkType_toValue (t : TypeExpr) : checkType t.toValue = .valid t := by
  cases t <;> rfl

theorem checkElement_stored (element : Option String) :
    checkElement (element.elim .null .str) = .valid element := by
  cases element <;> rfl

theorem checkReference_stored (reference : Option String) :
    checkReference (reference.elim .null .str) = .valid reference := by
  cases reference <;> rfl

theorem checkList?_stored (list : Option (List Value)) :
    Value.checkList? (list.elim .null .list) = .valid list := by
  cases list <;> rfl

/-- Facets without a mark are read back, whatever options come after them. -/
theorem ofOptions_stored {f : Facets} (unmarked : f.mark = none) (more : Options) :
    ofOptions (f.stored ++ more) = .valid f := by
  have spelling : Options.spelling (f.stored ++ more) "as" "as_" = "as" := rfl
  have type : Options.optional (f.stored ++ more) "type" .unset checkType = .valid f.type :=
    Options.optional_eq_valid rfl (checkType_toValue _)
  have element : Options.optional (f.stored ++ more) "of" none checkElement = .valid f.element :=
    Options.optional_eq_valid rfl (checkElement_stored _)
  have reference : Options.optional (f.stored ++ more) "as" none checkReference =
      .valid f.reference := Options.optional_eq_valid rfl (checkReference_stored _)
  have enumeration : Options.optional (f.stored ++ more) "enum" none Value.checkList? =
      .valid f.enumeration := Options.optional_eq_valid rfl (checkList?_stored _)
  have allowable : Options.optional (f.stored ++ more) "allowable_values" none Value.checkList? =
      .valid f.allowable := Options.optional_eq_valid rfl (checkList?_stored _)
  rw [ofOptions, spelling, type, element, reference, enumeration, allowable]
  cases f
  cases unmarked
  rfl

end Facets

/-! ### Nodes -/

namespace Node

mutual

/-- The options that a node is stored as. -/
def stored : Node → Options
  | .mk facets properties => facets.stored ++ [(.str "properties", .dict (storedEach properties))]

/-- Properties as dictionaries of the options that they are stored as, by name. -/
def storedEach : List (String × Slot Node) → List (Value × Value)
  | [] => []
  | (name, ⟨required, node⟩) :: rest =>
    (.str name, .dict (stored node ++ [(.str "required", .bool required)])) :: storedEach rest

end

end Node

/-- The options that a property or a request body is stored as. -/
def Slot.stored (slot : Slot Node) : Options :=
  slot.content.stored ++ [(.str "required", .bool slot.required)]

/-- The options that a component is stored as. -/
def Component.stored (c : Component) : Options :=
  c.node.stored ++ [(.str "name", .str c.name)]

/-- The options that a parameter is stored as. -/
def Parameter.stored (p : Parameter) : Options :=
  p.node.stored ++
    [(.str "name", .str p.name), (.str "in", .str p.location), (.str "required", .bool p.required)]

namespace Node

/-- Options behind those that a node is stored as are not read by the node. -/
theorem properties_stored (n : Node) (more : Options) :
    Options.properties (n.stored ++ more) =
      (Property.ofDictionary (.dict (storedEach n.properties))).within "properties" := by
  rcases n with ⟨f, properties⟩
  rw [stored, List.append_assoc, NodeTree.properties_append_of_bare rfl, List.singleton_append,
    Options.properties, if_pos (by decide)]
  rfl

/-- Properties that are read back one by one are read back by name. -/
theorem reads_storedEach {properties : List (String × Slot Node)}
    (each : ∀ p ∈ properties, Property.ofOptions p.2.stored = .valid p.2) :
    List.Forall₂ NodeTree.Reads (storedEach properties) properties := by
  induction properties with
  | nil =>
      rw [storedEach]
      exact .nil
  | cons property rest ih =>
      rcases property with ⟨name, required, n⟩
      obtain ⟨first, others⟩ := List.forall_mem_cons.mp each
      rw [storedEach]
      refine .cons ⟨rfl, ?_⟩ (ih others)
      rw [Property.ofValue]
      exact first

/-- A node is read back once its properties are, whatever options come after it. -/
theorem ofOptions_stored_of_each {n : Node} (proper : n.Proper)
    (each : ∀ p ∈ n.properties, Property.ofOptions p.2.stored = .valid p.2) (more : Options) :
    Node.ofOptions (n.stored ++ more) = .valid n := by
  have properties : Options.properties (n.stored ++ more) = .valid n.properties := by
    rw [properties_stored, Property.ofDictionary,
      NodeTree.ofEntries_of_reads (reads_storedEach each)]
    exact congrArg Checked.valid (Entries.ofList_eq_self proper.distinct.names)
  have facets : Facets.ofOptions (n.stored ++ more) = .valid n.facets := by
    rcases n with ⟨f, properties⟩
    rw [stored, List.append_assoc]
    exact Facets.ofOptions_stored proper.mark _
  rw [Node.ofOptions, Node.ofChecked, facets, properties]
  exact congrArg Checked.valid n.mk_facets_properties

end Node

/-- Reading a slot is reading its node and its flag, and nothing else. -/
theorem Slot.ofOptions_stored_of_node {slot : Slot Node}
    (node : Node.ofOptions slot.stored = .valid slot.content) :
    Property.ofOptions slot.stored = .valid slot := by
  have known : Options.unknown (Options.known slot.stored ["required"]) slot.stored = [] := by
    rcases slot with ⟨required, ⟨f, properties⟩⟩
    rfl
  have required : Options.checkRequired slot.stored = .valid slot.required := by
    rcases slot with ⟨required, ⟨f, properties⟩⟩
    rfl
  rw [Node.ofOptions] at node
  rw [Property.ofOptions, Slot.ofChecked, node, required, known]
  rfl

/-- A node is read back, whatever options come after it. -/
theorem Node.ofOptions_stored {n : Node} (proper : n.Proper) (more : Options) :
    Node.ofOptions (n.stored ++ more) = .valid n := by
  induction n generalizing more with
  | mk facets properties ih =>
      apply ofOptions_stored_of_each proper
      rintro ⟨name, slot⟩ member
      exact Slot.ofOptions_stored_of_node (ih name slot member (proper.property member) _)

theorem Slot.ofOptions_stored {slot : Slot Node} (proper : slot.content.Proper) :
    Property.ofOptions slot.stored = .valid slot :=
  Slot.ofOptions_stored_of_node (Node.ofOptions_stored proper _)

theorem Component.ofOptions_stored {c : Component} (proper : c.node.Proper) :
    Component.ofOptions c.stored = .valid c := by
  have node : Node.ofOptions c.stored = .valid c.node := Node.ofOptions_stored proper _
  have known : Options.unknown (Options.known c.stored ["name"]) c.stored = [] := by
    rcases c with ⟨name, ⟨f, properties⟩⟩
    rfl
  have name : Options.mandatory c.stored "name" Value.checkShown = .valid c.name := by
    rcases c with ⟨name, ⟨f, properties⟩⟩
    rfl
  rw [Component.ofOptions, node, known, name]
  rfl

theorem Parameter.ofOptions_stored {p : Parameter} (proper : p.node.Proper) :
    Parameter.ofOptions p.stored = .valid p := by
  have node : Node.ofOptions p.stored = .valid p.node := Node.ofOptions_stored proper _
  have spelling : Options.spelling p.stored "in" "in_" = "in" := by
    rcases p with ⟨name, location, required, ⟨f, properties⟩⟩
    rfl
  have known : Options.unknown (Options.known p.stored ["name", "in", "required"]) p.stored =
      [] := by
    rcases p with ⟨name, location, required, ⟨f, properties⟩⟩
    rfl
  have name : Options.mandatory p.stored "name" Value.checkShown = .valid p.name := by
    rcases p with ⟨name, location, required, ⟨f, properties⟩⟩
    rfl
  have location : Options.optional p.stored "in" "query" Value.checkShown =
      .valid p.location := by
    rcases p with ⟨name, location, required, ⟨f, properties⟩⟩
    rfl
  have required : Options.checkRequired p.stored = .valid p.required := by
    rcases p with ⟨name, location, required, ⟨f, properties⟩⟩
    rfl
  rw [Parameter.ofOptions, spelling, node, known, name, location, required]
  rfl

theorem Response.ofOptions_stored {n : Response} (proper : n.Proper) :
    Response.ofOptions n.stored = .valid n := by
  have node := Node.ofOptions_stored proper []
  have known : Options.unknown (Options.known n.stored []) n.stored = [] := by
    rcases n with ⟨f, properties⟩
    rfl
  rw [List.append_nil] at node
  rw [Response.ofOptions, Node.plain, node, known]
  rfl

/-! ### Kinds of nodes -/

/-- What a node is declared as. -/
inductive NodeKind where
  | property | component | parameter | body | response

namespace NodeKind

/-- What nodes of a kind are. -/
def Carrier : NodeKind → Type
  | .property => Property
  | .component => Component
  | .parameter => Parameter
  | .body => RequestBody
  | .response => Response

/-- Read something of a kind from options. -/
def read : (kind : NodeKind) → Options → Checked kind.Carrier
  | .property => Property.ofOptions
  | .component => Component.ofOptions
  | .parameter => Parameter.ofOptions
  | .body => RequestBody.ofOptions
  | .response => Response.ofOptions

/-- The node of something of a kind. -/
def node : (kind : NodeKind) → kind.Carrier → Node
  | .property => Slot.content
  | .component => Component.node
  | .parameter => Parameter.node
  | .body => Slot.content
  | .response => id

/-- Change the node of something of a kind. -/
def modify (f : Node → Node) : (kind : NodeKind) → kind.Carrier → kind.Carrier
  | .property => Slot.modify f
  | .component => fun c => { c with node := f c.node }
  | .parameter => fun p => { p with node := f p.node }
  | .body => Slot.modify f
  | .response => f

/-- The options that something of a kind is stored as. -/
def stored : (kind : NodeKind) → kind.Carrier → Options
  | .property => Slot.stored
  | .component => Component.stored
  | .parameter => Parameter.stored
  | .body => Slot.stored
  | .response => Node.stored

variable {kind : NodeKind} {a : kind.Carrier}

/-- Something of a kind was read from options, and then properties were declared in it,
at the root or at any depth, also such as were stopped on the way. -/
inductive Grown : kind.Carrier → Prop
  | read {options : Options} {a : kind.Carrier} (valid : kind.read options = .valid a) : Grown a
  | add {a : kind.Carrier} (grown : Grown a) (names : List String) {name : Value}
      {spec : NodeSpec} {key : String} {slot : Slot Node} {failure : Option Failure}
      (declared : spec.declareProperty name = .ok (key, slot, failure)) :
      Grown (kind.modify (Node.modifyAt (·.putProperty key slot) names) a)

theorem node_modify (f : Node → Node) (a : kind.Carrier) :
    kind.node (kind.modify f a) = f (kind.node a) := by
  cases kind <;> rfl

theorem proper_of_read {options : Options} (valid : kind.read options = .valid a) :
    (kind.node a).Proper := by
  cases kind with
  | property => exact Slot.proper_of_ofOptions valid
  | component => exact Component.proper_of_ofOptions valid
  | parameter => exact Parameter.proper_of_ofOptions valid
  | body => exact Slot.proper_of_ofOptions valid
  | response => exact Response.proper_of_ofOptions valid

/-- Whatever is declared is proper. -/
theorem Grown.proper (grown : kind.Grown a) : (kind.node a).Proper := by
  induction grown with
  | read valid => exact proper_of_read valid
  | add _ names declared ih =>
      have slotProper := NodeSpec.proper_of_declareProperty _ declared
      rw [node_modify]
      exact ih.modifyAt (fun _ proper => proper.putProperty slotProper _) names

/-- Whatever is declared is read back from the options that it is stored as: with the same
facets, so of the same shape and with the same target and allowed values, and with the same
properties, at any depth. -/
theorem read_stored (grown : kind.Grown a) : kind.read (kind.stored a) = .valid a := by
  have proper := grown.proper
  cases kind with
  | property => exact Slot.ofOptions_stored proper
  | component => exact Component.ofOptions_stored proper
  | parameter => exact Parameter.ofOptions_stored proper
  | body => exact Slot.ofOptions_stored proper
  | response => exact Response.ofOptions_stored proper

/-- Options in spellings other than those that are stored. -/
def bookOptions : Options := [
  (.str "name", .tag .object),
  (.str "type", .builtin .dict),
  (.str "as_", .null),
  (.str "allowable_values", .list [.int 1, .tag .number]),
  (.str "nullable", .str "No"),
  (.str "properties", .dict [
    (.str "id", .dict [(.str "of", .tag .number), (.str "required", .str "off")])])]

/-- The component of these options. -/
def book : Component :=
  ⟨"TypeTag.OBJECT", .mk { Facets.blank with
      type := .named "object", allowable := some [.int 1, .tag .number] } [
    ("id", ⟨false, .mk { Facets.blank with element := some "number" } []⟩)]⟩

/-- A component with a property that was added below one of its properties is read back. -/
theorem read_stored_book :
    component.Grown book ∧
    ∃ slot, NodeSpec.declareProperty (.bool true) (.leaf [("type", .builtin .str)]) =
        .ok ("True", slot, none) ∧
      let grown := component.modify (Node.modifyAt (·.putProperty "True" slot) ["id"]) book
      component.read (component.stored grown) = .valid grown := by
  have made : component.read bookOptions = .valid book := by rfl
  have added : NodeSpec.declareProperty (.bool true) (.leaf [("type", .builtin .str)]) =
      .ok ("True", ⟨true, .mk { Facets.blank with type := .named "string" } []⟩, none) := by rfl
  exact ⟨.read made, _, added, read_stored (.add (.read made) ["id"] added)⟩

end NodeKind

end ApiContract
