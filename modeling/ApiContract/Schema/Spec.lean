import ApiContract.Schema.Options

/-!
# Declaring trees of nodes

A tree of nodes is declared by a specification: the options of the root and, in
order, the named specifications of its properties.  Declaring stores a node
first and its properties after it, one by one, and stops at the first that is
refused; what was declared until then stays.  `declareProperties` therefore
gives the node that stands in the end together with the failure that stopped
it, if one did.

The options may name something else that is called with the node once it is
stored.  It leaves the node as it is, but when it cannot be called it stops the
declaration.
-/

namespace ApiContract

/-- A tree of nodes to be declared.  `inside` says whether the properties are
given while the node is being declared, or to the finished node. -/
inductive NodeSpec where
  | mk (options : List (Value × Value)) (inside : Bool) (properties : List (Value × NodeSpec))

namespace NodeSpec

instance : Inhabited NodeSpec :=
  ⟨.mk [] false []⟩

/-- The options of the root. -/
def options : NodeSpec → Options
  | .mk options _ _ => options

/-- Whether the properties are given while the node is being declared. -/
def inside : NodeSpec → Bool
  | .mk _ inside _ => inside

/-- The specifications of the properties, with their names. -/
def properties : NodeSpec → List (Value × NodeSpec)
  | .mk _ _ properties => properties

end NodeSpec

/-- The option that names what is called with the node. -/
def Options.callName : String :=
  "configure"

/-- Whether a built-in type makes a value of its own from a node. -/
def Builtin.takesNode : Builtin → Bool
  | .bool | .str | .dict | .list | .tuple => true
  | .int | .float | .bytes | .set | .object => false

/-- Why a value cannot be called with a node; null stands for nothing to call. -/
def Value.callFault? : Value → Option Failure
  | .null => none
  | .builtin b => if b.takesNode then none else some (.misuse .notCallable)
  | _ => some (.misuse .notCallable)

namespace Options

/-- Why what the options name cannot be called with the node. -/
def callFault? (options : Options) : Option Failure :=
  (options.get? callName).bind Value.callFault?

/-- The first of the arguments of a declaration that is given as an option too.
When the properties are given while the node is being declared, that is what is
called with the node, and the options may name nothing else. -/
def givenTwice? (options : Options) (inside : Bool) (arguments : List String) : Option String :=
  ("self" :: (if inside then [callName] else []) ++ arguments).find? fun name =>
    (options.get? name).isSome

/-- The options of the node itself, if they do not repeat an argument of its
declaration. -/
def ownFrom (options : Options) (inside : Bool) (arguments : List String) :
    Except Failure Options :=
  match options.givenTwice? inside arguments with
  | some name => .error (.misuse (.givenTwice name))
  | none => .ok (options.filter fun option => option.1.text? != some callName)

end Options

namespace NodeSpec

mutual

/-- Declare a property: its name, the slot that stands for it, and the failure
that stopped its own properties, if one did.  A property whose own options are
refused does not come to stand. -/
def declareProperty (name : Value) : NodeSpec →
    Except Failure (String × Slot Node × Option Failure)
  | .mk options inside properties =>
    (Options.ownFrom options inside ["name"]).bind fun own =>
      (Property.ofOptions own).toExcept.bind fun slot =>
        name.shown.bind fun key =>
          match Options.callFault? options with
          | some failure => .ok (key, slot, some failure)
          | none =>
            let (node, failure) := declareProperties slot.content properties
            .ok (key, ⟨slot.required, node⟩, failure)

/-- Declare properties of a node, first to last, up to the first failure. -/
def declareProperties (node : Node) : List (Value × NodeSpec) → Node × Option Failure
  | [] => (node, none)
  | (name, spec) :: rest =>
    match declareProperty name spec with
    | .error failure => (node, some failure)
    | .ok (key, slot, some failure) => (node.putProperty key slot, some failure)
    | .ok (key, slot, none) => declareProperties (node.putProperty key slot) rest

end

theorem declareProperties_nil (node : Node) : declareProperties node [] = (node, none) := by
  rw [declareProperties]

/-- Declaring properties changes no facet. -/
theorem facets_declareProperties (node : Node) (specs : List (Value × NodeSpec)) :
    (declareProperties node specs).1.facets = node.facets := by
  induction specs generalizing node with
  | nil => rw [declareProperties]
  | cons spec rest ih =>
    obtain ⟨name, spec⟩ := spec
    rw [declareProperties]
    split <;> simp [ih]

/-- The options of the root itself, if they do not repeat an argument of its
declaration. -/
def own (spec : NodeSpec) (arguments : List String) : Except Failure Options :=
  spec.options.ownFrom spec.inside arguments

/-- Declare the properties of a specification on a node. -/
def declareOn (spec : NodeSpec) (node : Node) : Node × Option Failure :=
  match spec.options.callFault? with
  | some failure => (node, some failure)
  | none => declareProperties node spec.properties

end NodeSpec

end ApiContract
