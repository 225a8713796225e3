import ApiContract.Proofs.Registry.Typed

/-!
# Registries only grow

No call takes anything out of a registry, and none moves what is declared.  A
component stays as it was declared, except that properties come after those that
it has, and so do parameters of an endpoint.  This holds of every call, whether
or not it fails, unless it assigns to a field of an endpoint or to a field of a
node that is kept out of sight.
-/

namespace ApiContract

/-- Items of a list keep their number, and are related to what they become. -/
def Kept {α : Type} (related : α → α → Prop) (before after : List α) : Prop :=
  ∀ (index : Nat) (a : α), before[index]? = some a → ∃ b, after[index]? = some b ∧ related a b

namespace Kept

variable {α : Type} {related : α → α → Prop} {before middle after : List α}

theorem refl (same : ∀ a, related a a) (list : List α) : Kept related list list :=
  fun _ a found => ⟨a, found, same a⟩

theorem trans (join : ∀ {a b c}, related a b → related b c → related a c)
    (first : Kept related before middle) (second : Kept related middle after) :
    Kept related before after := by
  intro index a found
  obtain ⟨b, foundThen, ab⟩ := first index a found
  obtain ⟨c, foundLast, bc⟩ := second index b foundThen
  exact ⟨c, foundLast, join ab bc⟩

/-- What is appended moves nothing. -/
theorem append (same : ∀ a, related a a) (list more : List α) :
    Kept related list (list ++ more) := by
  intro index a found
  exact ⟨a, List.getElem?_append_left (List.getElem?_eq_some_iff.mp found).1 ▸ found, same a⟩

/-- The change of an item moves nothing, and changes nothing else. -/
theorem modify (same : ∀ a, related a a) {list : List α} {number : Nat} {f : α → α}
    (changed : ∀ a, list[number]? = some a → related a (f a)) :
    Kept related list (list.modify number f) := by
  intro index a found
  rw [List.getElem?_modify, found]
  by_cases here : number = index
  · subst here
    exact ⟨f a, by simp, changed a found⟩
  · exact ⟨a, by simp [here], same a⟩

end Kept

/-! ### Nodes -/

/-- A node stays as it is, except that properties come after those that it has. -/
structure Node.Extends (before after : Node) : Prop where
  facets : after.facets = before.facets
  properties : before.properties.keys <+: after.properties.keys

namespace Node

variable {n m k : Node}

theorem Extends.refl (n : Node) : n.Extends n :=
  ⟨rfl, List.prefix_refl _⟩

theorem Extends.trans (first : n.Extends m) (second : m.Extends k) : n.Extends k :=
  ⟨second.facets.trans first.facets, first.properties.trans second.properties⟩

/-- A property that is stored stands after the others, or in the place of one of its name. -/
theorem extends_putProperty (n : Node) (name : String) (slot : Slot Node) :
    n.Extends (n.putProperty name slot) := by
  constructor
  · rfl
  · rw [properties_putProperty, Entries.keys_put]
    split
    · exact List.prefix_refl _
    · exact List.prefix_append _ _

/-- What changes a node in a tree extends the tree, if it extends the root where this is the
node. -/
theorem extends_modifyAt {f : Node → Node} (changed : ∀ n : Node, n.Extends (f n))
    (names : List String) (n : Node) : n.Extends (modifyAt f names n) := by
  cases names with
  | nil => exact changed n
  | cons name names =>
      rw [modifyAt]
      split
      · exact extends_putProperty n name _
      · exact .refl n

end Node

/-! ### Components and endpoints -/

/-- A component keeps its name, and its node is extended. -/
structure Component.Extends (before after : Component) : Prop where
  name : after.name = before.name
  node : before.node.Extends after.node

theorem Component.Extends.refl (c : Component) : c.Extends c :=
  ⟨rfl, .refl _⟩

theorem Component.Extends.trans {b c d : Component} (first : b.Extends c) (second : c.Extends d) :
    b.Extends d :=
  ⟨second.name.trans first.name, first.node.trans second.node⟩

/-- What is said of a parameter, its properties apart. -/
structure Parameter.Head where
  name : String
  location : String
  required : Bool
  facets : Facets

/-- What is said of a parameter, its properties apart. -/
def Parameter.head (p : Parameter) : Parameter.Head :=
  ⟨p.name, p.location, p.required, p.node.facets⟩

/-- Parameters that are declared stay, except for their properties, and others come after them. -/
def Endpoint.Extends (before after : Endpoint) : Prop :=
  ∀ parameters, before.parameters = .declared parameters →
    ∃ more, after.parameters = .declared more ∧
      parameters.map Parameter.head <+: more.map Parameter.head

namespace Endpoint

variable {e e' : Endpoint}

theorem extends_of_eq (same : e'.parameters = e.parameters) : e.Extends e' :=
  fun parameters declared => ⟨parameters, same.trans declared, List.prefix_refl _⟩

theorem Extends.refl (e : Endpoint) : e.Extends e :=
  extends_of_eq rfl

theorem Extends.trans {d : Endpoint} (first : d.Extends e) (second : e.Extends e') :
    d.Extends e' := by
  intro parameters declared
  obtain ⟨some, declaredThen, grown⟩ := first parameters declared
  obtain ⟨more, declaredLast, grownFurther⟩ := second some declaredThen
  exact ⟨more, declaredLast, grown.trans grownFurther⟩

/-- A parameter comes after those before, or is not declared. -/
theorem extends_addParameter (e : Endpoint) (name : Value) (spec : NodeSpec) :
    e.Extends (e.addParameter name spec).1 := by
  simp only [addParameter]
  split
  · exact .refl e
  · rename_i parameters p valid
    simp only [Attempt.do_eq_ok_iff, Attempt.pure_eq_ok_iff, Held.get_eq_ok_iff] at valid
    rcases valid with ⟨own, -, standing, standingEq, read, -, equal⟩
    cases equal
    simp only
    split
    · exact .refl e
    · intro others declared
      cases standingEq.symm.trans declared
      refine ⟨_, rfl, ?_⟩
      rw [List.map_append]
      exact List.prefix_append _ _

theorem parameters_setRequestBody (e : Endpoint) (spec : NodeSpec) :
    (e.setRequestBody spec).1.parameters = e.parameters := by
  simp only [setRequestBody]
  split <;> rfl

theorem parameters_addResponse (e : Endpoint) (status : Value) (spec : NodeSpec) :
    (e.addResponse status spec).1.parameters = e.parameters := by
  simp only [addResponse]
  split <;> rfl

/-- An edit extends an endpoint, whether or not it fails. -/
theorem extends_edit (e : Endpoint) (edit : Edit) : e.Extends (e.edit edit).1 := by
  cases edit with
  | setPath path => exact extends_of_eq rfl
  | setDescription description => exact extends_of_eq rfl
  | addOperations verbs => exact extends_of_eq rfl
  | addParameter name spec => exact extends_addParameter e name spec
  | setRequestBody spec => exact extends_of_eq (parameters_setRequestBody e spec)
  | addResponse status spec => exact extends_of_eq (parameters_addResponse e status spec)
  | exceptionError status description => exact extends_of_eq (parameters_addResponse e _ _)

/-- The change of a node that keeps its facets extends the endpoint. -/
theorem extends_modifyParameter {f : Node → Node} (keeps : ∀ n : Node, (f n).facets = n.facets)
    (index : Nat) (e : Endpoint) : e.Extends (modifyParameter f index e) := by
  intro parameters declared
  rw [modifyParameter, declared]
  refine ⟨_, rfl, ?_⟩
  have same : (parameters.modify index fun p => { p with node := f p.node }).map Parameter.head =
      parameters.map Parameter.head := by
    apply List.ext_getElem?
    intro number
    rw [List.getElem?_map, List.getElem?_map, List.getElem?_modify]
    cases parameters[number]? with
    | none => rfl
    | some p =>
        by_cases here : index = number <;> simp [here, Parameter.head, keeps]
  exact ⟨[], by rw [List.append_nil, same]⟩

theorem parameters_modifyResponse (f : Node → Node) (index : Nat) (e : Endpoint) :
    (modifyResponse f index e).parameters = e.parameters := by
  rw [modifyResponse]
  split <;> rfl

end Endpoint

/-! ### Registries -/

/-- A call assigns to no field of an endpoint, and to no field of a node that is kept out of
sight. -/
def Call.isPublic : Call → Bool
  | .assignNode _ field _ => !isSetApart field
  | .assignEndpoint _ _ _ => false
  | _ => true

namespace Registry

variable {r s : Registry}

/-- Components and endpoints keep their numbers, and are extended. -/
structure Extends (before after : Registry) : Prop where
  components : Kept Component.Extends before.components after.components
  endpoints : Kept Endpoint.Extends before.endpoints after.endpoints

theorem Extends.refl (r : Registry) : r.Extends r :=
  ⟨.refl .refl _, .refl .refl _⟩

theorem Extends.trans {q : Registry} (first : q.Extends r) (second : r.Extends s) : q.Extends s :=
  ⟨first.components.trans .trans second.components, first.endpoints.trans .trans second.endpoints⟩

/-- Components that are appended extend a registry. -/
theorem extends_append_components (r : Registry) (more : List Component) :
    r.Extends { r with components := r.components ++ more } :=
  ⟨.append .refl _ _, .refl .refl _⟩

/-- The change of an endpoint into one that extends it extends the registry. -/
theorem extends_modifyEndpoint {index : Nat} {f : Endpoint → Endpoint}
    (changed : ∀ e, r.endpoints[index]? = some e → e.Extends (f e)) :
    r.Extends (r.modifyEndpoint index f) :=
  ⟨.refl .refl _, .modify .refl changed⟩

/-- The change of a node into one that extends it extends the registry. -/
theorem extends_modifyNode {f : Node → Node} (changed : ∀ n : Node, n.Extends (f n))
    (place : NodePlace) : r.Extends (r.modifyNode f place) := by
  have changedAt : ∀ n : Node, n.Extends (Node.modifyAt f place.names n) :=
    Node.extends_modifyAt changed place.names
  rw [modifyNode]
  cases place.root with
  | component index =>
      exact ⟨.modify .refl fun c _ => ⟨rfl, changedAt c.node⟩, .refl .refl _⟩
  | parameter endpoint index =>
      apply extends_modifyEndpoint
      exact fun e _ => Endpoint.extends_modifyParameter (fun n => (changedAt n).facets) index e
  | response endpoint index =>
      apply extends_modifyEndpoint
      exact fun e _ => Endpoint.extends_of_eq (Endpoint.parameters_modifyResponse _ index e)
  | body endpoint =>
      apply extends_modifyEndpoint
      exact fun e _ => Endpoint.extends_of_eq rfl

/-- An assignment to a field of a node that is not kept out of sight changes nothing. -/
theorem registry_assignNode {field : String} (shown : isSetApart field = false)
    (place : NodePlace) (value : Value) : (r.assignNode place field value).registry = r := by
  have notShape : (field == shapeField) = false := by
    rw [beq_eq_false_iff_ne]
    rintro rfl
    exact absurd shown (by decide)
  simp only [assignNode]
  split
  · rfl
  · simp [notShape, shown, Outcome.unchanged]

/-- Every call extends the registry, whether or not it fails. -/
theorem extends_call (r : Registry) {c : Call} (isPublic : c.isPublic = true) :
    r.Extends (r.call c).registry := by
  cases c with
  | component name spec =>
      simp only [call, Outcome.shown, component]
      split
      · exact .refl r
      · exact extends_append_components r _
  | endpoint edits =>
      have appended : r.Extends { r with
          endpoints := r.endpoints ++ [(Endpoint.empty.configure edits).1] } :=
        ⟨.refl .refl _, .append .refl _ _⟩
      simp only [call, Outcome.shown, endpoint]
      split <;> exact appended
  | edit index change =>
      simp only [call, edit]
      split
      · exact .refl r
      · rename_i e found
        apply extends_modifyEndpoint
        intro standing here
        cases here.symm.trans (itemAt_eq_ok_iff.mp found)
        exact Endpoint.extends_edit e change
  | addProperty place name spec =>
      simp only [call, Outcome.shown, addProperty]
      split
      · exact .refl r
      · exact extends_modifyNode (fun n => n.extends_putProperty _ _) place
  | assignNode place field value =>
      have shown : isSetApart field = false := by simpa [Call.isPublic] using isPublic
      rw [call, registry_assignNode shown]
      exact .refl r
  | assignEndpoint index field value => simp [Call.isPublic] at isPublic
  | derive name attributes storage properties =>
      simp only [call, Outcome.shown, derive]
      split
      · simp only [component]
        split
        · exact .refl r
        · exact extends_append_components r _
      · exact extends_append_components r _

/-- The registry after calls, one after the other, whether or not they fail. -/
def after (r : Registry) (calls : List Call) : Registry :=
  calls.foldl (fun r c => (r.call c).registry) r

/-- Calls extend the registry. -/
theorem extends_after {calls : List Call} (arePublic : ∀ c ∈ calls, c.isPublic = true) :
    r.Extends (r.after calls) := by
  induction calls generalizing r with
  | nil => exact .refl r
  | cons first rest ih =>
      obtain ⟨firstPublic, restPublic⟩ := List.forall_mem_cons.mp arePublic
      exact (extends_call r firstPublic).trans (ih restPublic)

/-! ### Shapes -/

/-- Calls that assign to no field of an endpoint, and to none that is kept out of sight, build on
what is built by declaring. -/
theorem Built.after (built : r.Built) {calls : List Call}
    (arePublic : ∀ c ∈ calls, c.isPublic = true) : (r.after calls).Built := by
  induction calls generalizing r with
  | nil => exact built
  | cons first rest ih =>
      obtain ⟨firstPublic, restPublic⟩ := List.forall_mem_cons.mp arePublic
      refine ih ?_ restPublic
      cases first with
      | assignNode place field value =>
          have shown : isSetApart field = false := by simpa [Call.isPublic] using firstPublic
          change (r.assignNode place field value).registry.Built
          rwa [registry_assignNode shown]
      | assignEndpoint index field value => simp [Call.isPublic] at firstPublic
      | _ => exact built.call _ rfl

theorem facets_deriveProperties (storage : Storage) (owner : String) (attributes : List Value)
    (n : Node) : (storage.deriveProperties owner n attributes).1.facets = n.facets := by
  induction attributes generalizing n with
  | nil => rfl
  | cons given rest ih =>
      rw [Storage.deriveProperties]
      split
      · rfl
      · exact ih n
      · exact ih n
      · exact ih _

/-- The change of a node into one that extends it puts no mark on a component. -/
theorem mark_modifyNode (unmarked : ∀ c ∈ r.components, c.node.facets.mark = none)
    {f : Node → Node} (changed : ∀ n : Node, n.Extends (f n)) (place : NodePlace) :
    ∀ c ∈ (r.modifyNode f place).components, c.node.facets.mark = none := by
  rw [modifyNode]
  cases place.root with
  | component index =>
      refine forall_mem_modify unmarked ?_ index
      intro c none
      rwa [(Node.extends_modifyAt changed place.names c.node).facets]
  | parameter endpoint index => exact unmarked
  | response endpoint index => exact unmarked
  | body endpoint => exact unmarked

/-- A component that is declared bears no mark, and neither does the one that is shown. -/
theorem mark_component (unmarked : ∀ c ∈ r.components, c.node.facets.mark = none) (name : Value)
    (spec : NodeSpec) :
    (∀ c ∈ (r.component name spec).registry.components, c.node.facets.mark = none) ∧
      ∀ c, (r.component name spec).answer = .ok c → c.node.facets.mark = none := by
  simp only [component]
  split
  · exact ⟨unmarked, by simp [Outcome.unchanged]⟩
  · rename_i read valid
    simp only [Attempt.bind_eq_ok_iff, Checked.toExcept_eq_ok_iff] at valid
    rcases valid with ⟨own, -, readEq⟩
    have declared := (spec.proper_of_declareOn (Component.proper_of_ofOptions readEq)).mark
    constructor
    · exact forall_mem_concat unmarked declared
    · intro c shown
      obtain ⟨-, rfl⟩ := answerUnless_eq_ok_iff.mp shown
      exact declared

/-- No component of a registry that is built by declaring bears a mark. -/
theorem Built.unmarked (built : r.Built) : ∀ c ∈ r.components, c.node.facets.mark = none := by
  induction built with
  | empty => simp [Registry.empty]
  | @call before _ c declares ih =>
      cases c with
      | component name spec => exact (mark_component ih name spec).1
      | endpoint edits =>
          simp only [Registry.call, Outcome.shown, Registry.endpoint]
          split <;> exact ih
      | edit index change =>
          simp only [Registry.call, Registry.edit]
          split <;> exact ih
      | addProperty place name spec =>
          simp only [Registry.call, Outcome.shown, Registry.addProperty]
          split
          · exact ih
          · exact mark_modifyNode ih (fun n => n.extends_putProperty _ _) place
      | assignNode place field value => simp [Call.declares] at declares
      | assignEndpoint index field value => simp [Call.declares] at declares
      | derive name attributes storage properties =>
          obtain ⟨declared, shown⟩ :=
            mark_component ih name
              (.mk (Options.ofEntries [("type", .str "object")]) true properties)
          simp only [Registry.call, Outcome.shown, Registry.derive]
          split
          · exact declared
          · rename_i c answer
            refine forall_mem_concat ih ?_
            have unmarked := shown c answer
            split
            · rwa [facets_deriveProperties]
            · exact unmarked

/-- Declarations stay.  After any calls, and after any more of them, whether or not they fail, a
component has the number, the name and the facets that it had, its shape goes by its type, element
and reference, and properties come after those that it had.  An endpoint has the number that it had,
and parameters come after those that it had, which are the same but for their properties. -/
theorem declarations_stay (calls more : List Call)
    (arePublic : ∀ c ∈ calls ++ more, c.isPublic = true) :
    (∀ (index : Nat) (c : Component), (after .empty calls).components[index]? = some c →
      ∃ c', (after .empty (calls ++ more)).components[index]? = some c' ∧
        c'.name = c.name ∧ c'.node.facets = c.node.facets ∧
        c'.node.shape = Shape.of c.node.facets.type c.node.facets.element c.node.facets.reference ∧
        c.node.properties.keys <+: c'.node.properties.keys) ∧
      ∀ (index : Nat) (e : Endpoint), (after .empty calls).endpoints[index]? = some e →
        ∃ e' parameters parameters', (after .empty (calls ++ more)).endpoints[index]? = some e' ∧
          e.parameters = .declared parameters ∧ e'.parameters = .declared parameters' ∧
          parameters.map Parameter.head <+: parameters'.map Parameter.head := by
  obtain ⟨callsPublic, morePublic⟩ := List.forall_mem_append.mp arePublic
  have built : (after .empty calls).Built := Built.empty.after callsPublic
  have joined : after .empty (calls ++ more) = (after .empty calls).after more := by
    rw [after, after, after, List.foldl_append]
  have extended : (after .empty calls).Extends (after .empty (calls ++ more)) := by
    rw [joined]
    exact extends_after morePublic
  constructor
  · intro index c found
    obtain ⟨c', foundAfter, name, facets, properties⟩ := extended.components index c found
    refine ⟨c', foundAfter, name, facets, ?_, properties⟩
    have unmarked := built.unmarked c (List.mem_of_getElem? found)
    rw [Node.shape, facets, Facets.shape, unmarked]
    rfl
  · intro index e found
    obtain ⟨e', foundAfter, grown⟩ := extended.endpoints index e found
    obtain ⟨parameters, declared, -⟩ :=
      (built.regular.endpoints e (List.mem_of_getElem? found)).parameters
    obtain ⟨parameters', declaredAfter, heads⟩ := grown parameters declared
    exact ⟨e', parameters, parameters', foundAfter, declared, declaredAfter, heads⟩

/-- An order with a number, and an endpoint that takes a page. -/
def ordersCalls : List Call := [
  .component (.str "Order") (.mk (Options.ofEntries [("type", .str "object")]) true [
    (.str "number", .leaf [("type", .str "number")])]),
  .endpoint [.setPath (.str "/orders"), .addParameter (.str "page") (.leaf [])]]

/-- Calls of which some fail: a property of an order, an assignment to its type, another component
of the name, and a parameter with an option that nobody knows after one without. -/
def furtherCalls : List Call := [
  .addProperty ⟨.component 0, []⟩ (.str "amount") (.leaf []),
  .assignNode ⟨.component 0, []⟩ "type" (.str "array"),
  .component (.str "Order") (.leaf [("type", .str "array")]),
  .edit 0 (.addParameter (.str "size") (.leaf [])),
  .edit 0 (.addParameter (.str "page") (.leaf [("typ", .str "number")]))]

/-- The order is an object with its number in front, and the page is the first parameter. -/
theorem declarations_stay_orders :
    (∃ c, (after .empty (ordersCalls ++ furtherCalls)).components[0]? = some c ∧
      c.name = "Order" ∧ c.node.shape = .object ∧ ["number"] <+: c.node.properties.keys) ∧
      ∃ e page size, (after .empty (ordersCalls ++ furtherCalls)).endpoints[0]? = some e ∧
        e.parameters = .declared [page, size] ∧
        [⟨"page", "query", true, Facets.blank⟩] <+: [page.head, size.head] := by
  obtain ⟨components, endpoints⟩ := declarations_stay ordersCalls furtherCalls (by decide +kernel)
  obtain ⟨c, found, name, -, shape, properties⟩ := components 0 _ rfl
  obtain ⟨e, before, parameters, foundEndpoint, declared, declaredAfter, heads⟩ :=
    endpoints 0 _ rfl
  refine ⟨⟨c, found, name, shape, properties⟩, ?_⟩
  cases foundEndpoint
  cases declared
  cases declaredAfter
  exact ⟨_, _, _, rfl, rfl, heads⟩

end Registry

end ApiContract
