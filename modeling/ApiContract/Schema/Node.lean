import ApiContract.Failure
import ApiContract.Schema.Type

/-!
# Declared nodes

Everything that can be described — a component, a property, a parameter, a
request body, a response — is a node: its facets and an ordered mapping of
properties, each a node again.  Whether something has to be given is not a
facet of the node but of the slot that holds it.
-/

namespace ApiContract

/-- What a declaration says about one node, its properties apart.  The shape of a
node goes by what is said of it, unless a mark is put in its place by hand. -/
structure Facets where
  type : TypeExpr
  /-- The element type of an array, or the component that an object is. -/
  element : Option String
  description : String
  /-- The component that the node refers to. -/
  reference : Option String
  enumeration : Option (List Value)
  allowable : Option (List Value)
  nullable : Bool
  mark : Option Value
  deriving DecidableEq

namespace Facets

/-- The facets of a node of which nothing is said. -/
def blank : Facets :=
  ⟨.unset, none, "", none, none, none, false, none⟩

/-- What a node with these facets is.  A mark is none of the shapes, so a marked
node is a scalar. -/
def shape (f : Facets) : Shape :=
  if f.mark.isSome then .scalar else Shape.of f.type f.element f.reference

/-- The name of the shape, or of the mark in its place; only tags are marks with a
name. -/
def shapeName : Facets → Except Failure String
  | ⟨_, _, _, _, _, _, _, some (.tag t)⟩ => .ok t.text
  | ⟨_, _, _, _, _, _, _, some _⟩ => .error .lacking
  | f => .ok f.shape.name

/-- The component that is referred to: the reference, or the element when there
is no reference or an empty one. -/
def target (f : Facets) : Option String :=
  if Shape.isNamed f.reference then f.reference else f.element

/-- The values that are allowed: the allowable ones when given, otherwise the
enumerated ones. -/
def allowed (f : Facets) : Option (List Value) :=
  f.allowable.orElse fun _ => f.enumeration

/-- A node that is a reference has a target. -/
theorem target_isSome_of_shape {f : Facets} (h : f.shape = .reference) :
    f.target.isSome = true := by
  have h : Shape.of f.type f.element f.reference = .reference := by
    unfold shape at h
    split at h
    · cases h
    · exact h
  have h := (Shape.of_eq_reference_iff _ _ _).1 h
  unfold target
  split <;> cases hr : f.reference <;> cases he : f.element <;>
    simp_all [Shape.refers, Shape.isNamed]

end Facets

/-- A place for something, and whether it has to be filled. -/
structure Slot (α : Type) where
  required : Bool
  content : α
  deriving DecidableEq

/-- A node: its facets, and its properties in order of declaration. -/
inductive Node where
  | mk (facets : Facets) (properties : List (String × Slot Node))

namespace Node

instance : Inhabited Node :=
  ⟨.mk Facets.blank []⟩

/-- The facets of a node. -/
def facets : Node → Facets
  | .mk facets _ => facets

/-- The properties of a node, in order of declaration. -/
def properties : Node → Entries String (Slot Node)
  | .mk _ properties => properties

@[simp]
theorem mk_facets_properties (n : Node) : mk n.facets n.properties = n := by
  cases n
  rfl

mutual

/-- Decides whether two nodes are identical. -/
def decEq : (m n : Node) → Decidable (m = n)
  | .mk f ps, .mk g qs =>
    if h : f = g then
      match decEqProperties ps qs with
      | isTrue k => isTrue (by rw [h, k])
      | isFalse k => isFalse (by simp [k])
    else isFalse (by simp [h])

/-- Decides whether two lists of properties are identical. -/
def decEqProperties : (ps qs : List (String × Slot Node)) → Decidable (ps = qs)
  | [], [] => isTrue rfl
  | [], _ :: _ | _ :: _, [] => isFalse (by simp)
  | (s, ⟨a, m⟩) :: ps, (t, ⟨b, n⟩) :: qs =>
    if h : s = t ∧ a = b then
      match decEq m n, decEqProperties ps qs with
      | isTrue i, isTrue j => isTrue (by rw [h.1, h.2, i, j])
      | isFalse i, _ => isFalse (by simp [i])
      | _, isFalse j => isFalse (by simp [j])
    else isFalse (by simp; intro hs ha; exact absurd ⟨hs, ha⟩ h)

end

instance : DecidableEq Node :=
  decEq

/-- What a node is. -/
def shape (n : Node) : Shape :=
  n.facets.shape

/-- Put a mark in place of the shape. -/
def putMark (n : Node) (mark : Value) : Node :=
  .mk { n.facets with mark := some mark } n.properties

/-- Store a property under a name. -/
def putProperty (n : Node) (name : String) (property : Slot Node) : Node :=
  .mk n.facets (n.properties.put name property)

@[simp]
theorem facets_putProperty (n : Node) (name : String) (property : Slot Node) :
    (n.putProperty name property).facets = n.facets :=
  rfl

@[simp]
theorem properties_putProperty (n : Node) (name : String) (property : Slot Node) :
    (n.putProperty name property).properties = n.properties.put name property :=
  rfl

end Node

/-- A field of a node. -/
abbrev Property := Slot Node

/-- The data that an operation takes in its body. -/
abbrev RequestBody := Slot Node

/-- The data that an operation answers with. -/
abbrev Response := Node

/-- A node that others refer to by name. -/
structure Component where
  name : String
  node : Node
  deriving DecidableEq

/-- An input of an operation, and where it is given. -/
structure Parameter where
  name : String
  location : String
  required : Bool
  node : Node
  deriving DecidableEq

/-- The slot that a parameter is. -/
def Parameter.slot (p : Parameter) : Slot Node :=
  ⟨p.required, p.node⟩

end ApiContract
