import ApiContract.Lint
import ApiContract.Proofs.Attempt
import ApiContract.Proofs.Schema.Tree

/-!
# What the search for malformed declarations finds

A node is well formed if every node that stands in it has what its shape asks
for.  The search walks every tree of a registry, so it finds nothing exactly if
all of them are well formed, the names of the components differ, and every
endpoint has a path, operations and response keys that name a status.
-/

namespace ApiContract

/-- An array says what it holds, and a reference refers to what is registered. -/
structure Facets.WellFormed (registered : String → Prop) (f : Facets) : Prop where
  array : f.shape = .array → ∃ element, f.element = some element ∧ element ≠ ""
  reference : f.shape = .reference → ∃ target, f.target = some target ∧ registered target

/-- A text is there and not empty exactly if it counts as a name. -/
theorem Shape.isNamed_eq_true_iff {text : Option String} :
    Shape.isNamed text = true ↔ ∃ s, text = some s ∧ s ≠ "" := by
  cases text <;> simp [Shape.isNamed]

/-- Nothing is wrong with a node itself exactly if it has what its shape asks
for. -/
theorem Facets.defect?_eq_none_iff {known : String → Bool} {f : Facets} :
    f.defect? known = none ↔ f.WellFormed (known · = true) := by
  unfold defect?
  cases shape : f.shape with
  | array =>
      have named : Shape.isNamed f.element = true ↔ f.WellFormed (known · = true) := by
        rw [Shape.isNamed_eq_true_iff]
        exact ⟨fun element => ⟨fun _ => element, fun other => by simp [shape] at other⟩,
          fun formed => formed.array shape⟩
      simp [← named]
  | reference =>
      obtain ⟨target, targetEq⟩ := Option.isSome_iff_exists.mp (target_isSome_of_shape shape)
      have refers : known target = true ↔ f.WellFormed (known · = true) := by
        constructor
        · intro found
          exact ⟨fun other => by simp [shape] at other, fun _ => ⟨target, targetEq, found⟩⟩
        · intro formed
          obtain ⟨other, otherEq, found⟩ := formed.reference shape
          rwa [Option.some.inj (targetEq.symm.trans otherEq)]
      simp [targetEq, ← refers]
  | union | object | scalar =>
      simp only [true_iff]
      exact ⟨fun other => by simp [shape] at other, fun other => by simp [shape] at other⟩

namespace Node

/-- Every node that stands in a tree has what its shape asks for. -/
def WellFormed (registered : String → Prop) (n : Node) : Prop :=
  ∀ m, n.Contains m → m.facets.WellFormed registered

theorem WellFormed.property {registered : String → Prop} {n : Node}
    (formed : n.WellFormed registered) {name : String} {slot : Slot Node}
    (member : (name, slot) ∈ n.properties) : slot.content.WellFormed registered :=
  fun m inside => formed m (.property member inside)

variable {known : String → Bool}

/-- Nothing is found in properties exactly if nothing is found in any of them. -/
theorem propertyFindings_eq_nil_iff {location : String} {properties : List (String × Slot Node)} :
    propertyFindings known location properties = [] ↔
      ∀ name slot, (name, slot) ∈ properties →
        findings known (location ++ ".properties." ++ name) slot.content = [] := by
  induction properties with
  | nil => simp [propertyFindings]
  | cons property rest ih =>
      rcases property with ⟨name, required, n⟩
      rw [propertyFindings, List.append_eq_nil_iff, ih]
      constructor
      · rintro ⟨head, tail⟩ other slot member
        rcases List.mem_cons.mp member with equal | later
        · cases equal
          exact head
        · exact tail other slot later
      · intro all
        exact ⟨all name ⟨required, n⟩ List.mem_cons_self,
          fun other slot later => all other slot (List.mem_cons_of_mem _ later)⟩

/-- Nothing is found in a tree, wherever it stands, exactly if the tree is well
formed. -/
theorem findings_eq_nil_iff {n : Node} {location : String} :
    findings known location n = [] ↔ n.WellFormed (known · = true) := by
  induction n generalizing location with
  | mk f properties ih =>
      have root : ((f.defect? known).map (location, ·)).toList = [] ↔
          f.WellFormed (known · = true) := by
        rw [← Facets.defect?_eq_none_iff]
        cases f.defect? known <;> simp
      rw [findings, List.append_eq_nil_iff, root, propertyFindings_eq_nil_iff, WellFormed,
        forall_contains_iff]
      refine and_congr_right fun _ => ?_
      constructor
      · intro below name slot member
        exact (ih name slot member).mp (below name slot member)
      · intro below name slot member
        exact (ih name slot member).mpr (below name slot member)

end Node

namespace Endpoint

/-- An endpoint is declared in full, every node in it is well formed, and its
response keys name a status and have a text. -/
structure WellFormed (registered : String → Prop) (e : Endpoint) : Prop where
  path : e.path.isGiven = true
  operations : e.operations.isGiven = true
  parameters : ∃ parameters, e.parameters = .declared parameters ∧
    ∀ p ∈ parameters, p.node.WellFormed registered
  body : ∀ body, e.body = some body →
    ∃ n, body.node (·.content) = .ok n ∧ n.WellFormed registered
  responses : ∃ responses, e.responses = .declared responses ∧
    ∀ response ∈ responses,
      (∃ text, response.1.shown = .ok text) ∧ (∃ code, Status.resolve response.1 = .ok code) ∧
        ∃ n, response.2.node id = .ok n ∧ n.WellFormed registered

end Endpoint

namespace Registry

variable {known : String → Bool} {location : String}

theorem parameterFindings_eq_nil_iff {parameters : List Parameter} :
    parameterFindings known location parameters = [] ↔
      ∀ p ∈ parameters, p.node.WellFormed (known · = true) := by
  simp [parameterFindings, List.flatMap_eq_nil_iff, Node.findings_eq_nil_iff]

theorem bodyFindings_eq_ok_nil_iff {body : Option (Standing RequestBody)} :
    bodyFindings known location body = .ok [] ↔
      ∀ b, body = some b →
        ∃ n, b.node (·.content) = .ok n ∧ n.WellFormed (known · = true) := by
  cases body <;> simp [bodyFindings, Node.findings_eq_nil_iff]

/-- Nothing is found in a response exactly if its key has a text and names a status,
and its node is well formed. -/
theorem responseFindings_eq_ok_nil_iff {key : Value} {response : Standing Response} :
    responseFindings known location key response = .ok [] ↔
      (∃ text, key.shown = .ok text) ∧ (∃ code, Status.resolve key = .ok code) ∧
        ∃ n, response.node id = .ok n ∧ n.WellFormed (known · = true) := by
  rw [responseFindings, Attempt.bind_eq_ok_iff, ← exists_and_right]
  refine exists_congr fun text => and_congr_right fun _ => ?_
  cases resolved : Status.resolve key with
  | ok code => simp [Node.findings_eq_nil_iff]
  | error failure => cases failure <;> simp

theorem allResponseFindings_eq_ok_nil_iff {responses : List (Value × Standing Response)} :
    allResponseFindings known location responses = .ok [] ↔
      ∀ response ∈ responses,
        (∃ text, response.1.shown = .ok text) ∧ (∃ code, Status.resolve response.1 = .ok code) ∧
          ∃ n, response.2.node id = .ok n ∧ n.WellFormed (known · = true) := by
  induction responses with
  | nil => simp [allResponseFindings]
  | cons response rest ih =>
      rcases response with ⟨key, response⟩
      rw [List.forall_mem_cons, ← ih, ← @responseFindings_eq_ok_nil_iff known location,
        allResponseFindings, Attempt.append_eq_ok_nil_iff]

theorem ownFindings_eq_nil_iff {e : Endpoint} :
    ownFindings location e = [] ↔ e.path.isGiven = true ∧ e.operations.isGiven = true := by
  simp [ownFindings, List.append_eq_nil_iff]

/-- Nothing is found in an endpoint, wherever it stands, exactly if the endpoint is
well formed. -/
theorem endpointFindings_eq_ok_nil_iff {e : Endpoint} :
    endpointFindings known location e = .ok [] ↔ e.WellFormed (known · = true) := by
  simp only [endpointFindings, Attempt.do_eq_ok_iff, Attempt.pure_eq_ok_iff,
    List.append_eq_nil_iff, ownFindings_eq_nil_iff, parameterFindings_eq_nil_iff,
    Held.get_eq_ok_iff]
  constructor
  · rintro ⟨parameters, parametersEq, body, bodyEq, responses, responsesEq, found, foundEq,
      ⟨⟨⟨⟨path, operations⟩, formed⟩, rfl⟩, rfl⟩⟩
    exact ⟨path, operations, ⟨parameters, parametersEq, formed⟩,
      bodyFindings_eq_ok_nil_iff.mp bodyEq,
      ⟨responses, responsesEq, allResponseFindings_eq_ok_nil_iff.mp foundEq⟩⟩
  · rintro ⟨path, operations, ⟨parameters, parametersEq, formed⟩, body,
      ⟨responses, responsesEq, answered⟩⟩
    exact ⟨parameters, parametersEq, [], bodyFindings_eq_ok_nil_iff.mpr body, responses,
      responsesEq, [], allResponseFindings_eq_ok_nil_iff.mpr answered,
      ⟨⟨⟨⟨path, operations⟩, formed⟩, rfl⟩, rfl⟩⟩

theorem allEndpointFindings_eq_ok_nil_iff {index : Nat} {endpoints : List Endpoint} :
    allEndpointFindings known index endpoints = .ok [] ↔
      ∀ e ∈ endpoints, e.WellFormed (known · = true) := by
  induction endpoints generalizing index with
  | nil => simp [allEndpointFindings]
  | cons e rest ih =>
      rw [List.forall_mem_cons, ← @ih (index + 1),
        ← @endpointFindings_eq_ok_nil_iff known (endpointLocation index),
        allEndpointFindings, Attempt.append_eq_ok_nil_iff]

/-- Nothing is found in components exactly if none has the name of one before it and
all are well formed. -/
theorem componentFindings_eq_nil_iff {seen : List String} {components : List Component} :
    componentFindings known seen components = [] ↔
      (∀ c ∈ components, c.name ∉ seen) ∧ (components.map (·.name)).Nodup ∧
        ∀ c ∈ components, c.node.WellFormed (known · = true) := by
  induction components generalizing seen with
  | nil => simp [componentFindings]
  | cons c rest ih =>
      simp only [componentFindings, List.append_eq_nil_iff, ih, Node.findings_eq_nil_iff,
        List.forall_mem_cons, List.map_cons, List.nodup_cons, List.mem_append,
        List.mem_singleton, List.mem_map]
      by_cases old : c.name ∈ seen
      · simp [old]
      · simp only [List.contains_eq_mem, old, decide_false, Bool.false_eq_true, if_false,
          true_and, not_false_eq_true, not_or]
        constructor
        · rintro ⟨formed, fresh, distinct, others⟩
          refine ⟨fun d member => (fresh d member).1, ⟨?_, distinct⟩, formed, others⟩
          rintro ⟨d, member, same⟩
          exact (fresh d member).2 same
        · rintro ⟨fresh, ⟨absent, distinct⟩, formed, others⟩
          exact ⟨formed, fun d member => ⟨fresh d member, fun same => absent ⟨d, member, same⟩⟩,
            distinct, others⟩

/-- The components of a name, first to last. -/
def named (r : Registry) (name : String) : List Component :=
  r.components.filter (·.name == name)

/-- Whether a component of some name is declared. -/
theorem has_eq_true_iff {r : Registry} {name : String} : r.has name = true ↔ name ∈ r.names := by
  simp [has]

/-- The report of a registry is empty exactly if its components have different names
and everything that is declared in it is well formed. -/
theorem problems_eq_ok_nil_iff {r : Registry} :
    r.problems = .ok [] ↔
      r.names.Nodup ∧ (∀ c ∈ r.components, c.node.WellFormed (r.has · = true)) ∧
        ∀ e ∈ r.endpoints, e.WellFormed (r.has · = true) := by
  simp only [problems, findings, Attempt.map_eq_ok_iff, Entries.ofList_eq_nil_iff]
  constructor
  · rintro ⟨found, ⟨endpoints, endpointsEq, rfl⟩, empty⟩
    obtain ⟨components, rfl⟩ := List.append_eq_nil_iff.mp empty
    obtain ⟨-, distinct, formed⟩ := componentFindings_eq_nil_iff.mp components
    exact ⟨distinct, formed, allEndpointFindings_eq_ok_nil_iff.mp endpointsEq⟩
  · rintro ⟨distinct, formed, endpoints⟩
    exact ⟨[], ⟨[], allEndpointFindings_eq_ok_nil_iff.mpr endpoints, List.append_eq_nil_iff.mpr
      ⟨componentFindings_eq_nil_iff.mpr ⟨by simp, distinct, formed⟩, rfl⟩⟩, rfl⟩

end Registry

end ApiContract
