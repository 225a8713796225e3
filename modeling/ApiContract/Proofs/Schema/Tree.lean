import ApiContract.Proofs.Entries
import ApiContract.Schema.Node

/-!
# Trees of nodes

A node stands in another if it is that node or stands in one of its properties.
What is said of every node that stands in a tree is said of the root and of
every node that stands in a property, which is how statements about whole trees
are proved.
-/

namespace ApiContract.Node

/-- What holds of a node whenever it holds of the nodes of its properties holds of
every node. -/
@[elab_as_elim, induction_eliminator]
theorem induction {motive : Node → Prop}
    (mk : ∀ facets properties,
      (∀ name slot, (name, slot) ∈ properties → motive slot.content) →
        motive (.mk facets properties)) (n : Node) : motive n :=
  @Node.rec motive (fun properties => ∀ name slot, (name, slot) ∈ properties → motive slot.content)
    (fun property => motive property.2.content) (fun slot => motive slot.content)
    (fun facets properties ih => mk facets properties ih)
    (fun _ _ member => absurd member List.not_mem_nil)
    (fun _ _ head tail name slot member => by
      rcases List.mem_cons.mp member with rfl | later
      · exact head
      · exact tail name slot later)
    (fun _ _ ih => ih) (fun _ _ ih => ih) n

/-- A node stands in itself, and a node in whose properties another stands. -/
inductive Contains : Node → Node → Prop
  | here (n : Node) : Contains n n
  | property {n m : Node} {name : String} {slot : Slot Node}
      (member : (name, slot) ∈ n.properties) (inside : Contains slot.content m) : Contains n m

/-- What is said of all nodes in a tree is said of its root and of all nodes in its
properties. -/
theorem forall_contains_iff {motive : Node → Prop} {n : Node} :
    (∀ m, n.Contains m → motive m) ↔
      motive n ∧
        ∀ name slot, (name, slot) ∈ n.properties →
          ∀ m, slot.content.Contains m → motive m := by
  constructor
  · intro all
    exact ⟨all n (.here n), fun name slot member m inside => all m (.property member inside)⟩
  · rintro ⟨root, below⟩ m contained
    cases contained with
    | here => exact root
    | property member inside => exact below _ _ member m inside

/-- No name stands for two properties of one node, at any depth. -/
def Distinct (n : Node) : Prop :=
  ∀ m, n.Contains m → m.properties.keys.Nodup

theorem Distinct.names {n : Node} (distinct : n.Distinct) : n.properties.keys.Nodup :=
  distinct n (.here n)

theorem Distinct.property {n : Node} (distinct : n.Distinct) {name : String} {slot : Slot Node}
    (member : (name, slot) ∈ n.properties) : slot.content.Distinct :=
  fun m inside => distinct m (.property member inside)

/-- Names are distinct in a tree if they are at its root and in all properties. -/
@[simp]
theorem distinct_mk_iff {facets : Facets} {properties : List (String × Slot Node)} :
    (mk facets properties).Distinct ↔
      (Entries.keys properties).Nodup ∧ ∀ p ∈ properties, p.2.content.Distinct := by
  constructor
  · intro distinct
    exact ⟨distinct.names, fun _ member => distinct.property member⟩
  · rintro ⟨names, below⟩
    refine forall_contains_iff.mpr ⟨names, ?_⟩
    intro name slot member
    exact below (name, slot) member

/-- No mark stands in the place of a shape, and no name stands for two properties of one
node, at any depth. -/
def Proper (n : Node) : Prop :=
  ∀ m, n.Contains m → m.facets.mark = none ∧ m.properties.keys.Nodup

theorem Proper.distinct {n : Node} (proper : n.Proper) : n.Distinct :=
  fun m contained => (proper m contained).2

theorem Proper.mark {n : Node} (proper : n.Proper) : n.facets.mark = none :=
  (proper n (.here n)).1

theorem Proper.property {n : Node} (proper : n.Proper) {name : String} {slot : Slot Node}
    (member : (name, slot) ∈ n.properties) : slot.content.Proper :=
  fun m inside => proper m (.property member inside)

/-- A node is proper if its root is and all properties are. -/
@[simp]
theorem proper_mk_iff {facets : Facets} {properties : List (String × Slot Node)} :
    (mk facets properties).Proper ↔
      facets.mark = none ∧ (Entries.keys properties).Nodup ∧
        ∀ p ∈ properties, p.2.content.Proper := by
  constructor
  · intro proper
    exact ⟨proper.mark, proper.distinct.names, fun _ member => proper.property member⟩
  · rintro ⟨unmarked, names, below⟩
    refine forall_contains_iff.mpr ⟨⟨unmarked, names⟩, ?_⟩
    intro name slot member
    exact below (name, slot) member

end ApiContract.Node
