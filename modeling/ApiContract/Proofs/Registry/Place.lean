import ApiContract.Proofs.Attempt
import ApiContract.Proofs.Entries
import ApiContract.Registry.Place

/-!
# Changing what stands at a place

A change of the node at a place is seen at this place, and one change after
another is the change by both.  A place that is reached through another is
changed by changing the other.  These laws hold of the names that lead through a
tree of nodes, of the roots of a registry, and so of its places.
-/

namespace ApiContract

namespace Node

variable {f g : Node → Node} {names more : List String} {n m : Node}

theorem descend_append (names more : List String) (n : Node) :
    descend (names ++ more) n = (descend names n).bind (descend more) := by
  induction names generalizing n with
  | nil => rfl
  | cons name names ih =>
      rw [List.cons_append, descend, descend]
      cases n.slot name with
      | error f => rfl
      | ok slot => exact ih slot.content

theorem modifyAt_append (f : Node → Node) (names more : List String) (n : Node) :
    modifyAt f (names ++ more) n = modifyAt (modifyAt f more) names n := by
  induction names generalizing n with
  | nil => rfl
  | cons name names ih =>
      rw [List.cons_append, modifyAt, modifyAt]
      split
      · rw [ih]
      · rfl

/-- A property that is stored is found under its name. -/
theorem slot_putProperty (n : Node) (name : String) (slot : Slot Node) :
    (n.putProperty name slot).slot name = .ok slot := by
  rw [Node.slot, properties_putProperty, Entries.get?_put_self]

/-- What is stored last under a name stands there. -/
theorem putProperty_putProperty (n : Node) (name : String) (slot other : Slot Node) :
    (n.putProperty name slot).putProperty name other = n.putProperty name other := by
  rw [putProperty, properties_putProperty, facets_putProperty, Entries.put_put_self, ← putProperty]

/-- A change is seen where it is made. -/
theorem descend_modifyAt (found : descend names n = .ok m) :
    descend names (modifyAt f names n) = .ok (f m) := by
  induction names generalizing n with
  | nil => cases found; rfl
  | cons name names ih =>
      rw [descend, Attempt.bind_eq_ok_iff] at found
      obtain ⟨slot, there, inside⟩ := found
      rw [modifyAt]
      cases standing : n.properties.get? name with
      | none => simp [Node.slot, standing] at there
      | some other =>
          obtain rfl : other = slot := by simpa [Node.slot, standing] using there
          rw [descend]
          simp only [slot_putProperty, Attempt.ok_bind]
          exact ih inside

/-- One change after the other is the change by both. -/
theorem modifyAt_modifyAt (f g : Node → Node) (names : List String) (n : Node) :
    modifyAt g names (modifyAt f names n) = modifyAt (fun n => g (f n)) names n := by
  induction names generalizing n with
  | nil => rfl
  | cons name names ih =>
      rw [modifyAt.eq_2 f, modifyAt.eq_2 fun n => g (f n)]
      cases standing : n.properties.get? name with
      | none => simp [modifyAt, standing]
      | some slot =>
          simp [modifyAt, Entries.get?_put_self, putProperty_putProperty, ih]

/-- A change into the same changes nothing. -/
theorem modifyAt_id (names : List String) (n : Node) : modifyAt (fun m => m) names n = n := by
  induction names generalizing n with
  | nil => rfl
  | cons name names ih =>
      rw [modifyAt]
      split
      · rw [ih, putProperty, Entries.put_of_get? ‹_›, mk_facets_properties]
      · rfl

end Node

namespace Standing

variable {α : Type} {content : α → Node} {change : (Node → Node) → α → α} {standing : Standing α}
  {n : Node}

/-- A change is seen in what stands somewhere. -/
theorem node_modify {f : Node → Node} (found : standing.node content = .ok n)
    (changed : ∀ a, content (change f a) = f (content a)) :
    (standing.modify change f).node content = .ok (f n) := by
  cases standing with
  | declared a => cases found; exact congrArg Except.ok (changed a)
  | component c => cases found; rfl
  | value v => cases found

theorem modify_modify (standing : Standing α) (f g : Node → Node)
    (joined : ∀ a, change g (change f a) = change (fun n => g (f n)) a) :
    (standing.modify change f).modify change g = standing.modify change fun n => g (f n) := by
  cases standing <;> simp [modify, joined]

theorem modify_id (standing : Standing α) (same : ∀ a, change (fun n => n) a = a) :
    standing.modify change (fun n => n) = standing := by
  cases standing <;> simp [modify, same]

end Standing

/-- The place of a property of what stands at a place. -/
def NodePlace.below (place : NodePlace) (name : String) : NodePlace :=
  ⟨place.root, place.names ++ [name]⟩

namespace Registry

variable {r : Registry} {place : NodePlace} {root : NodeRoot} {n : Node}

/-! ### Changing endpoints -/

theorem itemAt_modify {α : Type} {list : List α} {index : Nat} {a : α}
    (found : itemAt list index = .ok a) (f : α → α) :
    itemAt (list.modify index f) index = .ok (f a) := by
  rw [itemAt_eq_ok_iff] at found ⊢
  rw [List.getElem?_modify_eq, found]
  rfl

theorem endpointOf_modifyEndpoint {index : Nat} {e : Endpoint} (found : r.endpointOf index = .ok e)
    (f : Endpoint → Endpoint) : (r.modifyEndpoint index f).endpointOf index = .ok (f e) :=
  itemAt_modify found f

theorem modifyEndpoint_modifyEndpoint (r : Registry) (index : Nat) (f g : Endpoint → Endpoint) :
    (r.modifyEndpoint index f).modifyEndpoint index g =
      r.modifyEndpoint index fun e => g (f e) := by
  simp [modifyEndpoint, List.modify_modify_eq, Function.comp_def]

/-- A change of every item into the same changes no list. -/
theorem modify_eq_self {α : Type} {f : α → α} (same : ∀ a, f a = a) (list : List α) (index : Nat) :
    list.modify index f = list := by
  rw [funext same]
  exact List.modify_id index list

/-! ### Changing roots -/

/-- A change is seen at the root where it is made. -/
theorem rootNode_modifyRoot (found : r.rootNode root = .ok n) (f : Node → Node) :
    (r.modifyRoot f root).rootNode root = .ok (f n) := by
  cases root with
  | component i =>
      rw [rootNode, Attempt.map_eq_ok_iff] at found
      obtain ⟨c, found, rfl⟩ := found
      rw [rootNode, modifyRoot, componentOf, itemAt_modify found]
      rfl
  | parameter endpoint i =>
      simp only [rootNode, Endpoint.parameter, Attempt.bind_eq_ok_iff, Attempt.map_eq_ok_iff,
        Held.get_eq_ok_iff] at found
      obtain ⟨e, found, p, ⟨parameters, standing, item⟩, rfl⟩ := found
      rw [rootNode, modifyRoot, endpointOf_modifyEndpoint found, Attempt.ok_bind,
        Endpoint.modifyParameter, standing, Endpoint.parameter, Held.get_declared, Attempt.ok_bind,
        itemAt_modify item]
      rfl
  | response endpoint i =>
      simp only [rootNode, Endpoint.response, Attempt.bind_eq_ok_iff, Attempt.map_eq_ok_iff,
        Held.get_eq_ok_iff] at found
      obtain ⟨e, found, s, ⟨responses, standing, response, item, rfl⟩, node⟩ := found
      rw [rootNode, modifyRoot, endpointOf_modifyEndpoint found, Attempt.ok_bind,
        Endpoint.modifyResponse, standing, Endpoint.response, Held.get_declared, Attempt.ok_bind,
        itemAt_modify item]
      exact Standing.node_modify node fun _ => rfl
  | body endpoint =>
      simp only [rootNode, Endpoint.requestBody, Attempt.bind_eq_ok_iff] at found
      obtain ⟨e, found, body, standing, node⟩ := found
      rw [rootNode, modifyRoot, endpointOf_modifyEndpoint found, Attempt.ok_bind,
        Endpoint.modifyBody, Endpoint.requestBody]
      cases present : e.body with
      | none => rw [present] at standing; cases standing
      | some there =>
          rw [present] at standing
          cases standing
          exact Standing.node_modify node fun _ => rfl

/-- One change of a root after the other is the change by both. -/
theorem modifyRoot_modifyRoot (r : Registry) (f g : Node → Node) (root : NodeRoot) :
    (r.modifyRoot f root).modifyRoot g root = r.modifyRoot (fun n => g (f n)) root := by
  cases root with
  | component i => simp [modifyRoot, List.modify_modify_eq, Function.comp_def]
  | parameter endpoint i =>
      rw [modifyRoot, modifyRoot, modifyRoot, modifyEndpoint_modifyEndpoint]
      congr 1
      funext e
      rcases e with ⟨_, _, _, parameters | _, _, _⟩
      · simp [Endpoint.modifyParameter, List.modify_modify_eq, Function.comp_def]
      · rfl
  | response endpoint i =>
      rw [modifyRoot, modifyRoot, modifyRoot, modifyEndpoint_modifyEndpoint]
      congr 1
      funext e
      rcases e with ⟨_, _, _, _, _, responses | _⟩
      · simp [Endpoint.modifyResponse, List.modify_modify_eq, Function.comp_def,
          Standing.modify_modify]
      · rfl
  | body endpoint =>
      rw [modifyRoot, modifyRoot, modifyRoot, modifyEndpoint_modifyEndpoint]
      congr 1
      funext e
      have body (standing : Standing RequestBody) :
          (standing.modify Slot.modify f).modify Slot.modify g =
            standing.modify Slot.modify fun n => g (f n) :=
        standing.modify_modify f g fun _ => rfl
      simp [Endpoint.modifyBody, Function.comp_def, body]

/-- A change of a root into the same changes nothing. -/
theorem modifyRoot_id (r : Registry) (root : NodeRoot) : r.modifyRoot (fun n => n) root = r := by
  have endpoint {f : Endpoint → Endpoint} (same : ∀ e, f e = e) (index : Nat) :
      r.modifyEndpoint index f = r := by
    rw [modifyEndpoint, modify_eq_self same]
  cases root with
  | component i => rw [modifyRoot, modify_eq_self fun _ => rfl]
  | parameter index i =>
      apply endpoint
      intro e
      rw [Endpoint.modifyParameter]
      split
      · simp [modify_eq_self, ← ‹e.parameters = _›]
      · rfl
  | response index i =>
      apply endpoint
      intro e
      rw [Endpoint.modifyResponse]
      split
      · simp [modify_eq_self, Standing.modify_id, ← ‹e.responses = _›]
      · rfl
  | body index =>
      apply endpoint
      rintro ⟨_, _, _, _, _ | body, _⟩
      · rfl
      · exact congrArg (Endpoint.mk _ _ _ _ · _) (congrArg some (body.modify_id fun _ => rfl))

/-! ### Changing places -/

/-- A change is seen at the place where it is made. -/
theorem node_modifyNode (found : r.node place = .ok n) (f : Node → Node) :
    (r.modifyNode f place).node place = .ok (f n) := by
  rw [node, Attempt.bind_eq_ok_iff] at found
  obtain ⟨top, standing, below⟩ := found
  rw [node, modifyNode, rootNode_modifyRoot standing, Attempt.ok_bind, Node.descend_modifyAt below]

/-- One change of a place after the other is the change by both. -/
theorem modifyNode_modifyNode (r : Registry) (f g : Node → Node) (place : NodePlace) :
    (r.modifyNode f place).modifyNode g place = r.modifyNode (fun n => g (f n)) place := by
  rw [modifyNode, modifyNode, modifyRoot_modifyRoot, modifyNode]
  simp only [Node.modifyAt_modifyAt]

/-- A change of a place into the same changes nothing. -/
theorem modifyNode_id (r : Registry) (place : NodePlace) : r.modifyNode (fun n => n) place = r := by
  rw [modifyNode, funext (Node.modifyAt_id place.names), modifyRoot_id]

theorem node_below (found : r.node place = .ok n) (name : String) :
    r.node (place.below name) = (n.slot name).map (·.content) := by
  rw [node, Attempt.bind_eq_ok_iff] at found
  obtain ⟨top, standing, below⟩ := found
  rw [node, NodePlace.below, standing, Attempt.ok_bind, Node.descend_append, below, Attempt.ok_bind,
    Node.descend]
  cases n.slot name <;> rfl

theorem modifyNode_below (r : Registry) (f : Node → Node) (place : NodePlace) (name : String) :
    r.modifyNode f (place.below name) = r.modifyNode (Node.modifyAt f [name]) place := by
  rw [modifyNode, modifyNode, NodePlace.below, funext (Node.modifyAt_append f place.names [name])]

end Registry

end ApiContract
