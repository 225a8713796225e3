import ApiContract.Schema.Node

/-!
# What fields hold

A field of an endpoint holds what was declared.  It may also be assigned a value
of any kind, which is looked at only when the field is used: a component stands
in the place of a node, though it lacks what is no part of one, and every other
value lacks all that is asked of a declaration.
-/

namespace ApiContract

/-- What a field holds: declarations, or a value that was assigned to it. -/
inductive Held (α : Type) where
  | declared (a : α)
  | assigned (v : Value)
  deriving DecidableEq

/-- The declarations that a field holds. -/
def Held.get {α : Type} : Held α → Except Failure α
  | .declared a => .ok a
  | .assigned _ => .error .lacking

@[simp]
theorem Held.get_declared {α : Type} (a : α) : (Held.declared a).get = .ok a :=
  rfl

/-- Declarations are found in a field exactly if the field holds them. -/
theorem Held.get_eq_ok_iff {α : Type} {h : Held α} {a : α} : h.get = .ok a ↔ h = .declared a := by
  cases h <;> simp [get]

/-- What stands where a node is declared: the declaration, a component that was put
there, or another value. -/
inductive Standing (α : Type) where
  | declared (a : α)
  | component (c : Component)
  | value (v : Value)
  deriving DecidableEq

namespace Standing

variable {α : Type}

/-- What a value that is put in the place of a node stands for. -/
def ofValue : Value → Standing α
  | .component name =>
    .component ⟨name, .mk { Facets.blank with type := .named "object" } []⟩
  | v => .value v

/-- The node that stands somewhere, where `content` is that of a declaration. -/
def node (content : α → Node) : Standing α → Except Failure Node
  | .declared a => .ok (content a)
  | .component c => .ok c.node
  | .value _ => .error .lacking

/-- Change the node that stands somewhere, where `change` does so in a
declaration. -/
def modify (change : (Node → Node) → α → α) (f : Node → Node) : Standing α → Standing α
  | .declared a => .declared (change f a)
  | .component c => .component { c with node := f c.node }
  | .value v => .value v

@[simp]
theorem node_declared (content : α → Node) (a : α) : (declared a).node content = .ok (content a) :=
  rfl

end Standing

end ApiContract
