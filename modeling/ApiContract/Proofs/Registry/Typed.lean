import ApiContract.Proofs.Registry.Built
import ApiContract.Proofs.Value.Parts

/-!
# What fields of endpoints are for

A path is for a text or is left out, and operations are for a list of texts.
Operations are so in every registry that is built by declaring, since verbs are
written in small letters when they are added; a path is whatever it is set to.

What is kept by every edit of an endpoint and by every change of a node in it
holds of all endpoints of a registry that is built by declaring, if it holds of
the empty endpoint.
-/

namespace ApiContract

/-- The path of an endpoint is a text or left out, and its operations are texts. -/
structure Endpoint.Typed (e : Endpoint) : Prop where
  path : e.path = .null ∨ e.path.isText = true
  operations : ∃ verbs, e.operations = .list verbs ∧ ∀ verb ∈ verbs, verb.isText = true

namespace Endpoint

variable {e : Endpoint}

/-- A path that is given is a text. -/
theorem Typed.isText_path (typed : e.Typed) (given : e.path.isGiven = true) :
    e.path.isText = true := by
  rcases typed.path with none | text
  · simp [none, Value.isGiven] at given
  · exact text

/-- Where requests to an endpoint are sent: its path and its operations. -/
def route (e : Endpoint) : Value × Value :=
  (e.path, e.operations)

theorem route_addParameter {name : Value} {spec : NodeSpec} :
    (e.addParameter name spec).1.route = e.route := by
  simp only [addParameter]
  split
  · rfl
  · simp only
    split <;> rfl

theorem route_setRequestBody {spec : NodeSpec} : (e.setRequestBody spec).1.route = e.route := by
  simp only [setRequestBody]
  split <;> rfl

theorem route_addResponse {status : Value} {spec : NodeSpec} :
    (e.addResponse status spec).1.route = e.route := by
  simp only [addResponse]
  split <;> rfl

/-- A change of an endpoint is one of a node in it, or none. -/
inductive NodeChange : (Endpoint → Endpoint) → Prop
  | parameter (f : Node → Node) (index : Nat) : NodeChange (modifyParameter f index)
  | response (f : Node → Node) (index : Nat) : NodeChange (modifyResponse f index)
  | body (f : Node → Node) : NodeChange (modifyBody f)
  | none : NodeChange id

/-- A change of a node leaves the path and the operations alone. -/
theorem NodeChange.route {change : Endpoint → Endpoint} (node : NodeChange change) :
    (change e).route = e.route := by
  cases node with
  | parameter f index =>
      rw [modifyParameter]
      split <;> rfl
  | response f index =>
      rw [modifyResponse]
      split <;> rfl
  | body f => rfl
  | none => rfl

end Endpoint

namespace Registry

variable {r : Registry} {motive : Endpoint → Prop}

/-! ### What calls do to endpoints -/

/-- Declaring a component leaves the endpoints alone. -/
theorem endpoints_component (name : Value) (spec : NodeSpec) :
    (r.component name spec).registry.endpoints = r.endpoints := by
  simp only [component]
  split <;> rfl

theorem endpoints_derive (name attributes : Value) (storage : Storage)
    (properties : List (Value × NodeSpec)) :
    (r.derive name attributes storage properties).registry.endpoints = r.endpoints := by
  simp only [derive]
  split
  · exact endpoints_component _ _
  · rfl

/-- Declaring an endpoint appends one that is filled in. -/
theorem endpoints_endpoint (edits : List Edit) :
    (r.endpoint edits).registry.endpoints =
      r.endpoints ++ [(Endpoint.empty.configure edits).1] := by
  simp only [endpoint]
  split <;> rfl

/-- Editing an endpoint changes the one of the number, if there is one. -/
theorem endpoints_edit (index : Nat) (edit : Edit) :
    (r.edit index edit).registry.endpoints =
      r.endpoints.modify index fun e => (e.edit edit).1 := by
  simp only [Registry.edit]
  split
  · rename_i f missing
    have out : r.endpoints[index]? = none := by
      rw [endpointOf, itemAt] at missing
      split at missing
      · cases missing
      · assumption
    exact (List.modify_eq_self (List.getElem?_eq_none_iff.mp out)).symm
  · rename_i e found
    have here : r.endpoints[index]? = some e := itemAt_eq_ok_iff.mp found
    apply List.ext_getElem?
    intro i
    simp only [modifyEndpoint, List.getElem?_modify]
    by_cases same : index = i
    · subst same
      simp [here]
    · simp [same]

/-- Changing a node changes no more than one endpoint. -/
theorem exists_nodeChange (f : Node → Node) (place : NodePlace) :
    ∃ index change, Endpoint.NodeChange change ∧
      (r.modifyNode f place).endpoints = r.endpoints.modify index change := by
  rw [modifyNode]
  cases place.root with
  | component index => exact ⟨0, id, .none, (List.modify_id 0 r.endpoints).symm⟩
  | parameter e index => exact ⟨e, _, .parameter _ index, rfl⟩
  | response e index => exact ⟨e, _, .response _ index, rfl⟩
  | body e => exact ⟨e, _, .body _, rfl⟩

theorem exists_nodeChange_addProperty (place : NodePlace) (name : Value) (spec : NodeSpec) :
    ∃ index change, Endpoint.NodeChange change ∧
      (r.addProperty place name spec).registry.endpoints = r.endpoints.modify index change := by
  simp only [addProperty]
  split
  · exact ⟨0, id, .none, (List.modify_id 0 r.endpoints).symm⟩
  · exact exists_nodeChange _ place

/-- What holds of the empty endpoint, and is kept by edits and by changes of nodes, holds of
every endpoint of a registry that is built by declaring. -/
theorem Built.forall_endpoints (built : r.Built) (empty : motive .empty)
    (edit : ∀ (e : Endpoint) (edit : Edit), motive e → motive (e.edit edit).1)
    (node : ∀ (e : Endpoint) (change : Endpoint → Endpoint), Endpoint.NodeChange change →
      motive e → motive (change e)) :
    ∀ e ∈ r.endpoints, motive e := by
  have configured : ∀ (edits : List Edit) (e : Endpoint), motive e →
      motive (e.configure edits).1 := by
    intro edits
    induction edits with
    | nil => exact fun _ holds => holds
    | cons first rest ih =>
        intro e holds
        have step := edit e first holds
        rw [Endpoint.configure]
        split
        · rename_i next _ done
          rw [done] at step
          exact ih next step
        · rename_i next _ failed
          rw [failed] at step
          exact step
  induction built with
  | empty => simp [Registry.empty]
  | @call before _ c declares ih =>
      cases c with
      | component name spec =>
          change ∀ e ∈ (before.component name spec).registry.endpoints, motive e
          rwa [endpoints_component]
      | endpoint edits =>
          change ∀ e ∈ (before.endpoint edits).registry.endpoints, motive e
          rw [endpoints_endpoint]
          exact forall_mem_concat ih (configured edits _ empty)
      | edit index change =>
          change ∀ e ∈ (before.edit index change).registry.endpoints, motive e
          rw [endpoints_edit]
          exact forall_mem_modify ih (fun e => edit e change) index
      | addProperty place name spec =>
          change ∀ e ∈ (before.addProperty place name spec).registry.endpoints, motive e
          obtain ⟨index, change, changes, equal⟩ := exists_nodeChange_addProperty place name spec
          rw [equal]
          exact forall_mem_modify ih (fun e => node e change changes) index
      | assignNode place field value => simp [Call.declares] at declares
      | assignEndpoint index field value => simp [Call.declares] at declares
      | derive name attributes storage properties =>
          change ∀ e ∈ (before.derive _ _ _ _).registry.endpoints, motive e
          rwa [endpoints_derive]

/-- Operations that are declared are texts. -/
theorem Built.operations (built : r.Built) :
    ∀ e ∈ r.endpoints, ∃ verbs : List String, e.operations = .list (verbs.map .str) := by
  apply built.forall_endpoints
    (motive := fun e => ∃ verbs : List String, e.operations = .list (verbs.map .str))
  · exact ⟨[], rfl⟩
  · rintro e edit ⟨verbs, operations⟩
    cases edit with
    | addOperations added =>
        obtain ⟨more, extended⟩ := Endpoint.exists_of_addVerbs (verbs.map .str) added
        refine ⟨verbs ++ more, ?_⟩
        simpa [Endpoint.edit, operations] using extended
    | setPath | setDescription => exact ⟨verbs, operations⟩
    | addParameter =>
        exact ⟨verbs, (congrArg Prod.snd Endpoint.route_addParameter).trans operations⟩
    | setRequestBody =>
        exact ⟨verbs, (congrArg Prod.snd Endpoint.route_setRequestBody).trans operations⟩
    | addResponse | exceptionError =>
        exact ⟨verbs, (congrArg Prod.snd Endpoint.route_addResponse).trans operations⟩
  · rintro e change node ⟨verbs, operations⟩
    exact ⟨verbs, (congrArg Prod.snd node.route).trans operations⟩

/-- The endpoints of a registry that is built by declaring are as they are meant to be if their
paths are. -/
theorem Built.typed (built : r.Built)
    (paths : ∀ e ∈ r.endpoints, e.path = .null ∨ e.path.isText = true) :
    ∀ e ∈ r.endpoints, e.Typed := by
  intro e member
  obtain ⟨verbs, operations⟩ := built.operations e member
  refine ⟨paths e member, _, operations, ?_⟩
  simp [Value.isText]

end Registry

end ApiContract
