import ApiContract.Proofs.Registry.Additions

/-!
# Three ways to declare a tree in a registry

Whatever a tree of valid options is declared as, it does not matter whether its
properties are given while their nodes are being declared, to the finished nodes,
or with the options: the registry, the answer and the log are the same.
-/

namespace ApiContract

namespace Registry

variable {r : Registry} {d : Declaration} {options more : Options}
  {properties : Entries String (Slot Node)} {root : Root}

/-- A root that is read from completed options has the properties, and is the same else. -/
theorem readRoot_completed (completed : options.Completed more properties)
    (read : r.readRoot options true d = .ok root) :
    (options ++ more).callFault? = none ∧
      ∀ inside, r.readRoot (options ++ more) inside d =
        .ok { root with node := root.node.withProperties properties } := by
  cases d with
  | component name =>
      simp only [readRoot, Attempt.map_eq_ok_iff, Attempt.bind_eq_ok_iff,
        Checked.toExcept_eq_ok_iff] at read
      obtain ⟨c, ⟨own, once, valid⟩, rfl⟩ := read
      obtain ⟨rfl, callable, whole⟩ := Options.ownFrom_append completed.only (by decide) once
      have readAgain := Component.ofOptions_completed (completed.cons "name" name (by decide))
      rw [valid, List.cons_append] at readAgain
      refine ⟨callable, fun inside => ?_⟩
      rw [readRoot, whole, Attempt.ok_bind, readAgain]
      rfl
  | parameter endpoint name =>
      simp only [readRoot, Endpoint.checkParameter, Attempt.map_eq_ok_iff, Attempt.bind_eq_ok_iff,
        Attempt.do_eq_ok_iff, Attempt.pure_eq_ok_iff, Checked.toExcept_eq_ok_iff] at read
      obtain ⟨e, found, -, ⟨own, once, parameters, standing, p, valid, rfl⟩, rfl⟩ := read
      obtain ⟨rfl, callable, whole⟩ := Options.ownFrom_append completed.only (by decide) once
      have readAgain := Parameter.ofOptions_completed (completed.cons "name" name (by decide))
      rw [valid, List.cons_append] at readAgain
      refine ⟨callable, fun inside => ?_⟩
      rw [readRoot, found, Attempt.ok_bind, Endpoint.checkParameter, whole, Attempt.ok_do, standing,
        Attempt.ok_do, readAgain]
      rfl
  | body endpoint =>
      simp only [readRoot, Attempt.map_eq_ok_iff, Attempt.bind_eq_ok_iff,
        Checked.toExcept_eq_ok_iff] at read
      obtain ⟨e, found, slot, ⟨own, once, valid⟩, rfl⟩ := read
      obtain ⟨rfl, callable, whole⟩ := Options.ownFrom_append completed.only (by decide) once
      have readAgain : RequestBody.ofOptions (own ++ more) = _ <$> RequestBody.ofOptions own :=
        Property.ofOptions_completed completed
      rw [valid] at readAgain
      refine ⟨callable, fun inside => ?_⟩
      rw [readRoot, found, Attempt.ok_bind, whole, Attempt.ok_bind, readAgain]
      rfl
  | response endpoint status =>
      simp only [readRoot, Endpoint.checkResponse, Attempt.map_eq_ok_iff, Attempt.bind_eq_ok_iff,
        Attempt.do_eq_ok_iff, Attempt.pure_eq_ok_iff, Checked.toExcept_eq_ok_iff] at read
      obtain ⟨e, found, -, ⟨own, once, n, valid, store, stores, rfl⟩, rfl⟩ := read
      obtain ⟨rfl, callable, whole⟩ := Options.ownFrom_append completed.only (by decide) once
      have readAgain := Response.ofOptions_completed completed
      rw [valid] at readAgain
      refine ⟨callable, fun inside => ?_⟩
      rw [readRoot, found, Attempt.ok_bind, Endpoint.checkResponse, whole, Attempt.ok_do, readAgain,
        stores]
      rfl
  | property place name =>
      simp only [readRoot, Property.read, Attempt.map_eq_ok_iff, Attempt.bind_eq_ok_iff,
        Checked.toExcept_eq_ok_iff] at read
      obtain ⟨-, ⟨n, found, own, once, slot, valid, key, shown, rfl⟩, rfl⟩ := read
      obtain ⟨rfl, callable, whole⟩ := Options.ownFrom_append completed.only (by decide) once
      have readAgain := Property.ofOptions_completed completed
      rw [valid] at readAgain
      refine ⟨callable, fun inside => ?_⟩
      rw [readRoot, found, Attempt.ok_bind, Property.read, whole, Attempt.ok_bind, readAgain, shown]
      rfl

/-- What is declared by a tree is the same in all three ways: with properties that are given while
their nodes are being declared, to the finished nodes, or with the options.  If the root alone is
declared and the options below it are valid, so is the tree.  To the finished nodes, properties may
be given by the same call, or added one by one where the root stands, which is somewhere in every
registry that is built by declaring.  The node has the facets of the root, and every name stands
where it is first, for what is last declared under it. -/
theorem call_three_ways (r : Registry) (d : Declaration) (t : NodeTree)
    (alone : ∃ shown, (r.call (d.call (.mk t.options true []))).answer = .ok shown)
    (bare : t.options.get? Options.propertiesName = none)
    (below : ∀ child ∈ t.children, child.2.Valid) :
    r.call (d.call (t.spec false)) = r.call (d.call (t.spec true)) ∧
      (r.Built → ∃ place, r.placeOf d = .ok place) ∧
      (∀ place, r.placeOf d = .ok place →
        r.Accepts (d.call (.mk t.options false []) :: NodeTree.additionsAll place t.children)
          (r.call (d.call (t.spec true))).registry) ∧
      r.call (d.call (.mk t.given false [])) = r.call (d.call (t.spec true)) ∧
      ∃ root node, r.readRoot t.options true d = .ok root ∧
        r.call (d.call (t.spec true)) = ⟨root.store node, .ok (root.shown node), root.log⟩ ∧
        node.facets = root.node.facets ∧
        node.properties.keys = (t.children.map (·.1)).eraseDups ∧
        ∀ name child, Entries.get? t.children.reverse name = some child →
          ∃ slot, node.properties.get? name = some slot ∧ child.Gives slot := by
  rcases t with ⟨options, children⟩
  rw [NodeTree.options_mk] at alone bare
  rw [NodeTree.children_mk] at below
  obtain ⟨root, read⟩ : ∃ root, r.readRoot options true d = .ok root := by
    obtain ⟨shown, answer⟩ := alone
    cases read : r.readRoot options true d with
    | error f =>
        rw [call_of_readRoot_error read] at answer
        cases answer
    | ok root => exact ⟨root, rfl⟩
  obtain ⟨slots, give⟩ := NodeTree.give_of_gives fun child member => (below child member).gives
  obtain ⟨callable, readBare⟩ := readRoot_completed (NodeTree.completed_nil bare) read
  obtain ⟨callableGiven, readGiven⟩ := readRoot_completed (give.completed bare) read
  rw [List.append_nil] at callable readBare
  rw [← NodeTree.given] at callableGiven readGiven
  let node := root.node.withProperties (Entries.ofList slots)
  have declared (inside : Bool) :
      r.call (d.call (.mk options inside (NodeTree.specs inside children))) =
        ⟨root.store node, .ok (root.shown node), root.log⟩ := by
    -- Nothing is stored in the node of the root before its properties are.
    have outcome := call_of_complete (readBare inside) callable (give.declareProperties inside _)
    exact outcome
  have given : r.call (d.call (.mk (NodeTree.mk options children).given false [])) =
      ⟨root.store node, .ok (root.shown node), root.log⟩ := by
    have outcome := call_of_complete (readGiven false) callableGiven
      (NodeSpec.declareProperties_nil node)
    exact outcome
  have added (place : NodePlace) (stands : r.placeOf d = .ok place) :
      r.Accepts (d.call (.mk options false []) :: NodeTree.additionsAll place children)
        (root.store node) := by
    have add := give.add fun child member slot => (below child member).adds
    have accepted := add.accepts_call (readBare false) callable rfl stands
    exact accepted
  rw [NodeTree.spec, NodeTree.spec, declared, declared, given]
  refine ⟨rfl, fun built => built.exists_placeOf read, added, rfl, root, node, read, rfl, rfl, ?_,
    ?_⟩
  · change Entries.keys (Entries.ofList slots) = _
    rw [Entries.keys_ofList, give.keys, NodeTree.children_mk]
  · intro name child last
    change ∃ slot, Entries.get? (Entries.ofList slots) name = some slot ∧ child.Gives slot
    rw [Entries.get?_ofList]
    exact NodeTree.Give.get? (List.forall₂_reverse_iff.mpr give) last

/-- An order with a buyer who is a text, with lines, and with a buyer who has a name. -/
def orderTree : NodeTree :=
  .mk (Options.ofEntries [("type", .str "object")]) [
    ("buyer", .mk (Options.ofEntries [("type", .str "string")]) []),
    ("lines", .mk (Options.ofEntries [("type", .str "array"), ("required", .bool false)]) []),
    ("buyer", .mk (Options.ofEntries [("type", .str "object")]) [
      ("name", .mk (Options.ofEntries [("type", .str "string")]) [])])]

/-- Such an order is the same component in all three ways.  The buyer stands first, and is the one
who has a name. -/
theorem call_three_ways_order :
    Registry.empty.call (.component (.str "Order") (orderTree.spec false)) =
        Registry.empty.call (.component (.str "Order") (orderTree.spec true)) ∧
      Registry.empty.Accepts
        (.component (.str "Order") (.mk orderTree.options false []) ::
          NodeTree.additionsAll ⟨.component 0, []⟩ orderTree.children)
        (Registry.empty.call (.component (.str "Order") (orderTree.spec true))).registry ∧
      Registry.empty.call (.component (.str "Order") (.mk orderTree.given false [])) =
        Registry.empty.call (.component (.str "Order") (orderTree.spec true)) ∧
      ∃ node, (Registry.empty.call (.component (.str "Order") (orderTree.spec true))).registry =
          ⟨[⟨"Order", node⟩], []⟩ ∧
        node.properties.keys = ["buyer", "lines"] ∧
        ∃ buyer, node.properties.get? "buyer" = some buyer ∧
          buyer.content.properties.keys = ["name"] := by
  have leaf {options : Options} {slot : Slot Node}
      (own : Property.ofOptions options = .valid slot)
      (bare : options.get? Options.propertiesName = none) : (NodeTree.mk options []).Valid :=
    .mk own bare fun _ member => absurd member List.not_mem_nil
  have below : ∀ child ∈ orderTree.children, child.2.Valid := by
    refine List.forall_mem_cons.mpr ⟨leaf rfl rfl, List.forall_mem_cons.mpr ⟨leaf rfl rfl, ?_⟩⟩
    refine List.forall_mem_singleton.mpr (.mk rfl rfl ?_)
    exact List.forall_mem_singleton.mpr (leaf rfl rfl)
  obtain ⟨afterwards, -, added, nested, root, node, read, outcome, -, keys, last⟩ :=
    call_three_ways .empty (.component (.str "Order")) orderTree ⟨_, rfl⟩ rfl below
  cases read
  obtain ⟨buyer, found, gives⟩ := last "buyer" _ rfl
  refine ⟨afterwards, added _ rfl, nested, node, congrArg Outcome.registry outcome, keys, buyer,
    found, ?_⟩
  cases gives.read
  rfl

end Registry

end ApiContract
