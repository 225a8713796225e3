import ApiContract.Proofs.Schema.Declared
import ApiContract.Registry.Call

/-!
# Registries that are built by declaring

A registry is built by declaring if nothing is ever assigned to a field.  Then its
endpoints hold declarations only: operations are a list, and parameters, request
bodies and responses are nodes that were declared.  In all of these nodes, and in
the components, no name stands for two properties.  Every call keeps this, whether
or not it fails.
-/

namespace ApiContract

/-- Whether a call declares something, and does not assign to a field. -/
def Call.declares : Call → Bool
  | .assignNode _ _ _ | .assignEndpoint _ _ _ => false
  | _ => true

/-- A registry is built by declaring, call by call. -/
inductive Registry.Built : Registry → Prop
  | empty : Built .empty
  | call {r : Registry} (built : Built r) (c : Call) (declares : c.declares = true) :
      Built (r.call c).registry

/-- An endpoint holds declarations only, and names are distinct in all of its nodes. -/
structure Endpoint.Regular (e : Endpoint) : Prop where
  operations : ∃ verbs, e.operations = .list verbs
  parameters : ∃ parameters, e.parameters = .declared parameters ∧
    ∀ p ∈ parameters, p.node.Distinct
  body : ∀ body, e.body = some body → ∃ slot, body = .declared slot ∧ slot.content.Distinct
  responses : ∃ responses, e.responses = .declared responses ∧
    ∀ response ∈ responses, ∃ n, response.2 = .declared n ∧ n.Distinct

/-- Names are distinct in all components, and all endpoints hold declarations only. -/
structure Registry.Regular (r : Registry) : Prop where
  components : ∀ c ∈ r.components, c.node.Distinct
  endpoints : ∀ e ∈ r.endpoints, e.Regular

/-- What holds of all items of a list, and is kept by a change, holds of all items after
the change of one. -/
theorem forall_mem_modify {α : Type} {motive : α → Prop} {f : α → α} {list : List α}
    (all : ∀ a ∈ list, motive a) (keeps : ∀ a, motive a → motive (f a)) (index : Nat) :
    ∀ a ∈ list.modify index f, motive a := by
  induction list generalizing index with
  | nil => simp
  | cons first rest ih =>
      obtain ⟨head, tail⟩ := List.forall_mem_cons.mp all
      cases index with
      | zero =>
          rw [List.modify_zero_cons]
          exact List.forall_mem_cons.mpr ⟨keeps first head, tail⟩
      | succ index =>
          rw [List.modify_succ_cons]
          exact List.forall_mem_cons.mpr ⟨head, ih tail index⟩

/-- What holds of all items of a list and of one more holds of all after it is appended. -/
theorem forall_mem_concat {α : Type} {motive : α → Prop} {list : List α} {a : α}
    (all : ∀ b ∈ list, motive b) (last : motive a) : ∀ b ∈ list ++ [a], motive b := by
  rw [List.forall_mem_append, List.forall_mem_singleton]
  exact ⟨all, last⟩

/-- What stands under a number in a list is one of its items. -/
theorem mem_of_itemAt {α : Type} {list : List α} {index : Nat} {a : α}
    (found : itemAt list index = .ok a) : a ∈ list :=
  List.mem_of_getElem? (itemAt_eq_ok_iff.mp found)

theorem answerUnless_eq_ok_iff {α : Type} {failure : Option Failure} {a b : α} :
    answerUnless failure a = .ok b ↔ failure = none ∧ a = b := by
  cases failure <;> simp [answerUnless]

/-! ### Edits -/

namespace Endpoint

theorem regular_empty : Endpoint.empty.Regular :=
  ⟨⟨[], rfl⟩, ⟨[], rfl, by simp⟩, by simp [Endpoint.empty], ⟨[], rfl, by simp⟩⟩

/-- Adding a verb to a list leaves the list as it is or appends a text. -/
theorem exists_of_addVerb {verb : String} {verbs : List Value} {operations : Value}
    (added : addVerb verb (.list verbs) = .ok operations) :
    ∃ more : List String, operations = .list (verbs ++ more.map .str) := by
  by_cases there : verbs.any (Value.same (.str verb)) = true
  · have stays : Value.list verbs = operations := by
      simpa [addVerb, Value.holds?, there] using added
    exact ⟨[], by simp [← stays]⟩
  · have grows : Value.list (verbs ++ [.str verb]) = operations := by
      simpa [addVerb, Value.holds?, there] using added
    exact ⟨[verb], grows.symm⟩

/-- Adding verbs to a list appends texts. -/
theorem exists_of_addVerbs (verbs added : List Value) :
    ∃ more : List String, (addVerbs (.list verbs) added).1 = .list (verbs ++ more.map .str) := by
  induction added generalizing verbs with
  | nil => exact ⟨[], by simp [addVerbs]⟩
  | cons verb rest ih =>
      rw [addVerbs]
      split
      · exact ⟨[], by simp⟩
      · rename_i operations added
        obtain ⟨text, -, stored⟩ := Attempt.bind_eq_ok_iff.mp added
        obtain ⟨first, rfl⟩ := exists_of_addVerb stored
        obtain ⟨more, equal⟩ := ih (verbs ++ first.map .str)
        exact ⟨first ++ more, by simpa using equal⟩

variable {e : Endpoint}

/-- A parameter is appended, or nothing is. -/
theorem Regular.addParameter (regular : e.Regular) (name : Value) (spec : NodeSpec) :
    (e.addParameter name spec).1.Regular := by
  simp only [Endpoint.addParameter]
  split
  · exact regular
  · rename_i parameters p valid
    simp only [Attempt.do_eq_ok_iff, Attempt.pure_eq_ok_iff, Checked.toExcept_eq_ok_iff,
      Held.get_eq_ok_iff] at valid
    rcases valid with ⟨own, -, standing, standingEq, read, readEq, equal⟩
    cases equal
    simp only
    split
    · exact regular
    · obtain ⟨others, othersEq, distinct⟩ := regular.parameters
      rw [standingEq] at othersEq
      cases othersEq
      refine ⟨regular.operations, ⟨_, rfl, ?_⟩, regular.body, regular.responses⟩
      apply forall_mem_concat distinct
      exact (spec.proper_of_declareOn (Parameter.proper_of_ofOptions readEq)).distinct

/-- The request body is replaced, or nothing is. -/
theorem Regular.setRequestBody (regular : e.Regular) (spec : NodeSpec) :
    (e.setRequestBody spec).1.Regular := by
  simp only [Endpoint.setRequestBody]
  split
  · exact regular
  · rename_i slot valid
    simp only [Attempt.bind_eq_ok_iff, Checked.toExcept_eq_ok_iff] at valid
    rcases valid with ⟨own, -, read⟩
    refine ⟨regular.operations, regular.parameters, ?_, regular.responses⟩
    intro body standing
    cases standing
    exact ⟨_, rfl, (spec.proper_of_declareOn (Slot.proper_of_ofOptions read)).distinct⟩

/-- A response is stored, or nothing is. -/
theorem Regular.addResponse (regular : e.Regular) (status : Value) (spec : NodeSpec) :
    (e.addResponse status spec).1.Regular := by
  simp only [Endpoint.addResponse]
  split
  · exact regular
  · rename_i node failure responses valid
    simp only [Attempt.do_eq_ok_iff, Attempt.pure_eq_ok_iff, Checked.toExcept_eq_ok_iff] at valid
    rcases valid with ⟨own, -, read, readEq, stored, storedEq, equal⟩
    cases equal
    obtain ⟨standing, standingEq, distinct⟩ := regular.responses
    refine ⟨regular.operations, regular.parameters, regular.body, ?_⟩
    simp only [storeResponse, standingEq] at storedEq
    split at storedEq
    · cases storedEq
      refine ⟨_, rfl, ?_⟩
      intro response member
      rcases Entries.mem_putBy member with earlier | last
      · exact distinct response earlier
      · exact ⟨_, last, (spec.proper_of_declareOn (Response.proper_of_ofOptions readEq)).distinct⟩
    · simp at storedEq

/-- An edit leaves declarations behind. -/
theorem Regular.edit (regular : e.Regular) (edit : Edit) : (e.edit edit).1.Regular := by
  cases edit with
  | setPath path => exact ⟨regular.operations, regular.parameters, regular.body, regular.responses⟩
  | setDescription description =>
      exact ⟨regular.operations, regular.parameters, regular.body, regular.responses⟩
  | addOperations verbs =>
      obtain ⟨standing, equal⟩ := regular.operations
      refine ⟨?_, regular.parameters, regular.body, regular.responses⟩
      simp only [Endpoint.edit, equal]
      obtain ⟨more, extended⟩ := exists_of_addVerbs standing verbs
      exact ⟨_, extended⟩
  | addParameter name spec => exact regular.addParameter name spec
  | setRequestBody spec => exact regular.setRequestBody spec
  | addResponse status spec => exact regular.addResponse status spec
  | exceptionError status description => exact regular.addResponse _ _

/-- Edits leave declarations behind. -/
theorem Regular.configure (regular : e.Regular) (edits : List Edit) :
    (e.configure edits).1.Regular := by
  induction edits generalizing e with
  | nil => exact regular
  | cons first rest ih =>
      rw [Endpoint.configure]
      have step := regular.edit first
      split
      · rename_i next _ done
        rw [done] at step
        exact ih step
      · rename_i next _ failed
        rw [failed] at step
        exact step

/-! ### Changing nodes -/

variable {f : Node → Node} (keeps : ∀ n : Node, n.Distinct → (f n).Distinct)

include keeps

theorem Regular.modifyParameter (regular : e.Regular) (index : Nat) :
    (e.modifyParameter f index).Regular := by
  obtain ⟨parameters, parametersEq, distinct⟩ := regular.parameters
  simp only [Endpoint.modifyParameter, parametersEq]
  refine ⟨regular.operations, ⟨_, rfl, ?_⟩, regular.body, regular.responses⟩
  exact forall_mem_modify distinct (fun p => keeps p.node) index

theorem Regular.modifyResponse (regular : e.Regular) (index : Nat) :
    (e.modifyResponse f index).Regular := by
  obtain ⟨responses, responsesEq, distinct⟩ := regular.responses
  simp only [Endpoint.modifyResponse, responsesEq]
  refine ⟨regular.operations, regular.parameters, regular.body, ⟨_, rfl, ?_⟩⟩
  refine forall_mem_modify distinct ?_ index
  rintro ⟨key, response⟩ ⟨n, rfl, nDistinct⟩
  exact ⟨f n, rfl, keeps n nDistinct⟩

theorem Regular.modifyBody (regular : e.Regular) : (e.modifyBody f).Regular := by
  refine ⟨regular.operations, regular.parameters, ?_, regular.responses⟩
  intro body standing
  obtain ⟨before, beforeEq, rfl⟩ := Option.map_eq_some_iff.mp standing
  obtain ⟨slot, rfl, distinct⟩ := regular.body before beforeEq
  exact ⟨slot.modify f, rfl, keeps _ distinct⟩

end Endpoint

/-! ### Calls -/

namespace Registry

variable {r : Registry}

theorem regular_empty : Registry.empty.Regular :=
  ⟨by simp [Registry.empty], by simp [Registry.empty]⟩

/-- Changing an endpoint keeps a registry regular if the change keeps endpoints regular. -/
theorem Regular.modifyEndpoint (regular : r.Regular) {f : Endpoint → Endpoint}
    (keeps : ∀ e : Endpoint, e.Regular → (f e).Regular) (index : Nat) :
    Regular { r with endpoints := r.endpoints.modify index f } := by
  constructor
  · exact regular.components
  · exact forall_mem_modify regular.endpoints keeps index

/-- Changing a node keeps names distinct if the change does. -/
theorem Regular.modifyNode (regular : r.Regular) {f : Node → Node}
    (keeps : ∀ n : Node, n.Distinct → (f n).Distinct) (place : NodePlace) :
    (r.modifyNode f place).Regular := by
  have keepsAt : ∀ n : Node, n.Distinct → (Node.modifyAt f place.names n).Distinct :=
    fun _ distinct => distinct.modifyAt keeps place.names
  rw [Registry.modifyNode]
  cases place.root with
  | component index =>
      constructor
      · exact forall_mem_modify regular.components (fun c => keepsAt c.node) index
      · exact regular.endpoints
  | parameter e index =>
      apply regular.modifyEndpoint
      exact fun _ regularEndpoint => regularEndpoint.modifyParameter keepsAt index
  | response e index =>
      apply regular.modifyEndpoint
      exact fun _ regularEndpoint => regularEndpoint.modifyResponse keepsAt index
  | body e =>
      apply regular.modifyEndpoint
      exact fun _ regularEndpoint => regularEndpoint.modifyBody keepsAt

/-- One more component keeps names distinct if they are in it. -/
theorem Regular.append (regular : r.Regular) {c : Component} (distinct : c.node.Distinct) :
    Regular { r with components := r.components ++ [c] } := by
  constructor
  · exact forall_mem_concat regular.components distinct
  · exact regular.endpoints

/-- A component that is declared has distinct names, and so has the one that is shown. -/
theorem Regular.component (regular : r.Regular) (name : Value) (spec : NodeSpec) :
    (r.component name spec).registry.Regular ∧
      ∀ c, (r.component name spec).answer = .ok c → c.node.Distinct := by
  simp only [Registry.component]
  split
  · exact ⟨regular, by simp [Outcome.unchanged]⟩
  · rename_i read valid
    simp only [Attempt.bind_eq_ok_iff, Checked.toExcept_eq_ok_iff] at valid
    rcases valid with ⟨own, -, readEq⟩
    have distinct := (spec.proper_of_declareOn (Component.proper_of_ofOptions readEq)).distinct
    constructor
    · exact regular.append distinct
    · intro c shown
      obtain ⟨-, rfl⟩ := answerUnless_eq_ok_iff.mp shown
      exact distinct

theorem Regular.endpoint (regular : r.Regular) (edits : List Edit) :
    (r.endpoint edits).registry.Regular := by
  have regularEndpoint := Endpoint.regular_empty.configure edits
  have extended :
      Regular { r with endpoints := r.endpoints ++ [(Endpoint.empty.configure edits).1] } := by
    constructor
    · exact regular.components
    · exact forall_mem_concat regular.endpoints regularEndpoint
  simp only [Registry.endpoint]
  split <;> exact extended

theorem Regular.edit (regular : r.Regular) (index : Nat) (edit : Edit) :
    (r.edit index edit).registry.Regular := by
  simp only [Registry.edit]
  split
  · exact regular
  · rename_i e found
    have regularEndpoint := regular.endpoints e (mem_of_itemAt found)
    apply regular.modifyEndpoint
    exact fun _ _ => regularEndpoint.edit edit

theorem Regular.addProperty (regular : r.Regular) (place : NodePlace) (name : Value)
    (spec : NodeSpec) : (r.addProperty place name spec).registry.Regular := by
  simp only [Registry.addProperty]
  split
  · exact regular
  · rename_i key slot failure declared
    obtain ⟨n, -, declared⟩ := Attempt.bind_eq_ok_iff.mp declared
    have slotDistinct := (NodeSpec.proper_of_declareProperty spec declared).distinct
    exact regular.modifyNode (fun _ distinct => distinct.putProperty slotDistinct key) place

/-- Deriving properties keeps names distinct. -/
theorem distinct_of_deriveProperties (storage : Storage) (owner : String) (attributes : List Value)
    {n : Node} (distinct : n.Distinct) :
    (storage.deriveProperties owner n attributes).1.Distinct := by
  induction attributes generalizing n with
  | nil => exact distinct
  | cons given rest ih =>
      rw [Storage.deriveProperties]
      split
      · exact distinct
      · exact ih distinct
      · exact ih distinct
      · exact ih (distinct.putProperty (by simp) _)

theorem Regular.derive (regular : r.Regular) (name attributes : Value) (storage : Storage)
    (properties : List (Value × NodeSpec)) :
    (r.derive name attributes storage properties).registry.Regular := by
  have declared := regular.component name
    (.mk (Options.ofEntries [("type", .str "object")]) true properties)
  simp only [Registry.derive]
  split
  · exact declared.1
  · rename_i c shown
    apply regular.append
    have distinct := declared.2 c shown
    cases attributes.items? with
    | none => exact distinct
    | some items => exact distinct_of_deriveProperties storage c.name items distinct

/-- A call that declares keeps a registry regular, whether or not it fails. -/
theorem Regular.call (regular : r.Regular) (c : Call) (declares : c.declares = true) :
    (r.call c).registry.Regular := by
  cases c with
  | component name spec => exact (regular.component name spec).1
  | endpoint edits => exact regular.endpoint edits
  | edit index edit => exact regular.edit index edit
  | addProperty place name spec => exact regular.addProperty place name spec
  | assignNode place field value => simp [Call.declares] at declares
  | assignEndpoint index field value => simp [Call.declares] at declares
  | derive name attributes storage properties =>
      exact regular.derive name attributes storage properties

/-- A registry that is built by declaring is regular. -/
theorem Built.regular (built : r.Built) : r.Regular := by
  induction built with
  | empty => exact regular_empty
  | call _ c declares ih => exact ih.call c declares

/-- Calls that declare, one after the other, build on what is built by declaring. -/
theorem Built.run (built : r.Built) {calls : List Call} (declare : ∀ c ∈ calls, c.declares = true) :
    (calls.foldl (fun r c => (r.call c).registry) r).Built := by
  induction calls generalizing r with
  | nil => exact built
  | cons first rest ih =>
      obtain ⟨firstDeclares, restDeclare⟩ := List.forall_mem_cons.mp declare
      exact ih (built.call first firstDeclares) restDeclare

/-- What calls that declare give is built by declaring. -/
theorem Built.of_calls (calls : List Call) (declare : ∀ c ∈ calls, c.declares = true)
    (made : calls.foldl (fun r c => (r.call c).registry) .empty = r) : r.Built :=
  made ▸ Built.empty.run declare

end Registry

end ApiContract
