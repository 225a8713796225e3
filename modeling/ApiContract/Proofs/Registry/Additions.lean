import ApiContract.Proofs.Registry.Built
import ApiContract.Proofs.Registry.Declaration
import ApiContract.Proofs.Registry.Place
import ApiContract.Proofs.Schema.NodeTree

/-!
# Adding property by property

What is declared comes to stand at a place.  There its properties may be added
one by one, each to the finished node above it, by calls of their own.  All of
these calls are accepted, and in the end the registry is the one in which the
node was stored with all of its properties.
-/

namespace ApiContract

/-- The node of a root stands at a place of the registries in which it is stored. -/
structure Root.StandsAt (root : Root) (place : NodePlace) : Prop where
  found : ∀ n, (root.store n).node place = .ok n
  changed : ∀ f n, (root.store n).modifyNode f place = root.store (f n)

namespace Registry

variable {r : Registry} {d : Declaration} {place : NodePlace} {root : Root}

/-- Where what is declared comes to stand.  Nothing is found among responses that were assigned. -/
def placeOf (r : Registry) : Declaration → Except Failure NodePlace
  | .component _ => .ok ⟨.component r.components.length, []⟩
  | .parameter endpoint _ =>
    ((r.endpointOf endpoint).bind (·.parameters.get)).map fun parameters =>
      ⟨.parameter endpoint parameters.length, []⟩
  | .body endpoint => .ok ⟨.body endpoint, []⟩
  | .response endpoint status =>
    ((r.endpointOf endpoint).bind (·.responses.get)).map fun responses =>
      ⟨.response endpoint (responses.findIdx fun response => response.1.sameKey status), []⟩
  | .property place name => name.shown.map place.below

/-- Whatever can be declared in a registry that is built by declaring comes to stand at a place. -/
theorem Built.exists_placeOf (built : r.Built) {options : Options} {inside : Bool}
    (read : r.readRoot options inside d = .ok root) : ∃ place, r.placeOf d = .ok place := by
  have regular := built.regular.endpoints
  cases d with
  | component name => exact ⟨_, rfl⟩
  | parameter endpoint name =>
      simp only [readRoot, Attempt.map_eq_ok_iff, Attempt.bind_eq_ok_iff] at read
      obtain ⟨e, found, -⟩ := read
      obtain ⟨parameters, declared, -⟩ := (regular e (mem_of_itemAt found)).parameters
      exact ⟨_, by rw [placeOf, found, Attempt.ok_bind, declared]; rfl⟩
  | body endpoint => exact ⟨_, rfl⟩
  | response endpoint status =>
      simp only [readRoot, Attempt.map_eq_ok_iff, Attempt.bind_eq_ok_iff] at read
      obtain ⟨e, found, -⟩ := read
      obtain ⟨responses, declared, -⟩ := (regular e (mem_of_itemAt found)).responses
      exact ⟨_, by rw [placeOf, found, Attempt.ok_bind, declared]; rfl⟩
  | property above name =>
      simp only [readRoot, Property.read, Attempt.map_eq_ok_iff, Attempt.bind_eq_ok_iff] at read
      obtain ⟨-, ⟨-, -, -, -, -, -, key, shown, -⟩, -⟩ := read
      exact ⟨above.below key, by rw [placeOf, shown]; rfl⟩

theorem itemAt_concat {α : Type} (list : List α) (a : α) :
    itemAt (list ++ [a]) list.length = .ok a := by
  rw [itemAt_eq_ok_iff]
  exact List.getElem?_concat_length

theorem modify_concat {α : Type} (list : List α) (a : α) (f : α → α) :
    (list ++ [a]).modify list.length f = list ++ [f a] := by
  induction list with
  | nil => rfl
  | cons first rest ih => exact congrArg (first :: ·) ih

/-- A root stands where what is declared comes to stand. -/
theorem standsAt_of_placeOf {options : Options} {inside : Bool}
    (read : r.readRoot options inside d = .ok root) (stands : r.placeOf d = .ok place) :
    root.StandsAt place := by
  cases d with
  | component name =>
      rw [readRoot, Attempt.map_eq_ok_iff] at read
      obtain ⟨c, -, rfl⟩ := read
      cases stands
      constructor
      · intro n
        rw [node, rootNode, componentOf, itemAt_concat]
        rfl
      · intro f n
        rw [modifyNode, modifyRoot, modify_concat]
        rfl
  | parameter endpoint name =>
      simp only [readRoot, Endpoint.checkParameter, Attempt.map_eq_ok_iff, Attempt.bind_eq_ok_iff,
        Attempt.do_eq_ok_iff, Attempt.pure_eq_ok_iff] at read
      obtain ⟨e, found, -, ⟨-, -, parameters, standing, p, -, rfl⟩, rfl⟩ := read
      rw [placeOf, found, Attempt.ok_bind, standing] at stands
      cases stands
      constructor
      · intro n
        rw [node, rootNode, endpointOf_modifyEndpoint found, Attempt.ok_bind, Endpoint.parameter,
          Held.get_declared, Attempt.ok_bind, itemAt_concat]
        rfl
      · intro f n
        rw [modifyNode, modifyRoot, modifyEndpoint_modifyEndpoint]
        simp only [Endpoint.modifyParameter, modify_concat]
        rfl
  | body endpoint =>
      simp only [readRoot, Attempt.map_eq_ok_iff, Attempt.bind_eq_ok_iff] at read
      obtain ⟨e, found, slot, -, rfl⟩ := read
      cases stands
      constructor
      · intro n
        rw [node, rootNode, endpointOf_modifyEndpoint found]
        rfl
      · intro f n
        rw [modifyNode, modifyRoot, modifyEndpoint_modifyEndpoint]
        rfl
  | response endpoint status =>
      simp only [readRoot, Endpoint.checkResponse, Attempt.map_eq_ok_iff, Attempt.bind_eq_ok_iff,
        Attempt.do_eq_ok_iff, Attempt.pure_eq_ok_iff] at read
      obtain ⟨e, found, -, ⟨-, -, n, -, store, stores, rfl⟩, rfl⟩ := read
      simp only [placeOf, found, Attempt.ok_bind, Attempt.map_eq_ok_iff,
        Held.get_eq_ok_iff] at stands
      obtain ⟨responses, standing, rfl⟩ := stands
      rw [standing, Endpoint.responseStore] at stores
      split at stores
      · cases stores
        constructor
        · intro n
          obtain ⟨key, item⟩ :=
            Entries.exists_getElem?_putBy Value.sameKey status (Standing.declared n) responses
          rw [node, rootNode, endpointOf_modifyEndpoint found, Attempt.ok_bind, Endpoint.response,
            Held.get_declared, Attempt.ok_bind, Value.putKey, itemAt_eq_ok_iff.mpr item]
          rfl
        · intro f n
          have changed := Entries.modify_putBy Value.sameKey status (Standing.declared n) responses
            (Standing.modify id f)
          rw [modifyNode, modifyRoot, modifyEndpoint_modifyEndpoint]
          exact congrArg
            (fun responses => r.modifyEndpoint endpoint fun _ =>
              { e with responses := .declared responses }) changed
      · cases stores
  | property above name =>
      simp only [readRoot, Property.read, Attempt.map_eq_ok_iff, Attempt.bind_eq_ok_iff] at read
      obtain ⟨-, ⟨n, found, own, -, slot, -, key, shown, rfl⟩, rfl⟩ := read
      rw [placeOf, shown] at stands
      cases stands
      constructor
      · intro m
        rw [node_below (node_modifyNode found _), Node.slot_putProperty]
        rfl
      · intro f m
        rw [modifyNode_below, modifyNode_modifyNode]
        simp [Node.modifyAt, Entries.get?_put_self, Node.putProperty_putProperty]

end Registry

/-- Calls that are all accepted, one after the other, from one registry to another. -/
inductive Registry.Accepts : Registry → List Call → Registry → Prop
  | nil (r : Registry) : Accepts r [] r
  | cons {r last : Registry} {c : Call} {rest : List Call} {shown : Declared}
      (answer : (r.call c).answer = .ok shown) (later : Accepts (r.call c).registry rest last) :
      Accepts r (c :: rest) last

namespace Registry.Accepts

variable {r middle last : Registry} {first second : List Call}

theorem append (before : r.Accepts first middle) (later : middle.Accepts second last) :
    r.Accepts (first ++ second) last := by
  induction before with
  | nil => exact later
  | cons answer _ ih => exact .cons answer (ih later)

end Registry.Accepts

namespace NodeTree

mutual

/-- The calls that add a tree to the node at a place: its root, and then its properties to what
stands there. -/
def additions (place : NodePlace) (name : String) : NodeTree → List Call
  | .mk options children =>
    .addProperty place (.str name) (.mk options false []) ::
      additionsAll (place.below name) children

/-- The calls that add named trees to the node at a place. -/
def additionsAll (place : NodePlace) : List (String × NodeTree) → List Call
  | [] => []
  | (name, t) :: rest => additions place name t ++ additionsAll place rest

end

/-- The calls that add a tree somewhere are accepted, and come to store a slot. -/
def Adds (t : NodeTree) (slot : Slot Node) : Prop :=
  ∀ (r : Registry) (place : NodePlace) (name : String) (n : Node), r.node place = .ok n →
    r.Accepts (additions place name t) (r.modifyNode (·.putProperty name slot) place)

/-- Named trees are added as slots, one after the other. -/
def Add (children : List (String × NodeTree)) (slots : List (String × Slot Node)) : Prop :=
  List.Forall₂ (fun child slot => child.1 = slot.1 ∧ child.2.Adds slot.2) children slots

variable {children : List (String × NodeTree)} {slots : List (String × Slot Node)} {r : Registry}
  {place : NodePlace} {n : Node}

theorem Give.add (give : Give children slots)
    (each : ∀ child ∈ children, ∀ slot, child.2.Gives slot → child.2.Adds slot) :
    Add children slots := by
  refine ((List.forall₂_and_left _ _).mpr ⟨each, give⟩).imp ?_
  rintro child slot ⟨adds, same, gives⟩
  exact ⟨same, adds slot.2 gives⟩

/-- Trees that are added somewhere come to store their slots there, one after the other. -/
theorem Add.accepts (add : Add children slots) (found : r.node place = .ok n) :
    r.Accepts (additionsAll place children)
      (r.modifyNode (fun n => .mk n.facets (Entries.putAll n.properties slots)) place) := by
  induction add generalizing r n with
  | nil =>
      have same :
          (fun n : Node => Node.mk n.facets (Entries.putAll n.properties [])) = fun n => n :=
        funext Node.mk_facets_properties
      rw [same, Registry.modifyNode_id, additionsAll]
      exact .nil r
  | @cons child slot children slots head tail ih =>
      rcases child with ⟨name, t⟩
      rcases slot with ⟨key, slot⟩
      obtain ⟨rfl, adds⟩ : name = key ∧ t.Adds slot := head
      have later := ih (Registry.node_modifyNode found (·.putProperty name slot))
      rw [Registry.modifyNode_modifyNode] at later
      exact (adds r place name n found).append later

/-- A root that has no properties is declared, and then trees are added where it stands.  In the end
the root is stored with their slots. -/
theorem Add.accepts_call {d : Declaration} {options : Options} {root : Root}
    (add : Add children slots) (read : r.readRoot options false d = .ok root)
    (callable : options.callFault? = none) (bare : root.node.properties = [])
    (stands : r.placeOf d = .ok place) :
    r.Accepts (d.call (.mk options false []) :: additionsAll place children)
      (root.store (root.node.withProperties (Entries.ofList slots))) := by
  have stands := Registry.standsAt_of_placeOf read stands
  have first := Registry.call_of_complete read callable (NodeSpec.declareProperties_nil root.node)
  have later := add.accepts (stands.found root.node)
  rw [stands.changed, bare] at later
  refine .cons (congrArg Outcome.answer first) ?_
  rw [first]
  exact later

/-- A tree of valid options is added as the slot that it gives. -/
theorem Valid.adds {t : NodeTree} (valid : t.Valid) {slot : Slot Node} (gives : t.Gives slot) :
    t.Adds slot := by
  induction valid generalizing slot with
  | @mk options children own valid bare below ih =>
      obtain ⟨slots, give⟩ := give_of_gives fun child member => (below child member).gives
      obtain rfl : own.withProperties (Entries.ofList slots) = slot :=
        Checked.valid.inj ((give.gives valid bare).read.symm.trans gives.read)
      intro r place name n found
      obtain ⟨callable, readOwn⟩ := read_of_valid valid
      have read : r.readRoot options false (.property place (.str name)) =
          .ok {
            node := own.content
            store := fun n => r.modifyNode (·.putProperty name ⟨own.required, n⟩) place
            shown := fun n => .slot ⟨own.required, n⟩
            log := [] } := by
        rw [Registry.readRoot, found, Attempt.ok_bind, readOwn]
        rfl
      have add := give.add fun child member slot => ih child member
      exact add.accepts_call read callable (properties_of_bare valid bare) rfl

end NodeTree

end ApiContract
