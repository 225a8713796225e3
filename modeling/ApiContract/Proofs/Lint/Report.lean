import ApiContract.Proofs.Lint.Findings
import ApiContract.Proofs.Registry.Built

/-!
# When the report of a registry is empty

For a registry that is built by declaring, the report is empty exactly if what is
declared in it is well formed: component names differ, no node at any depth is an
array that does not say what it holds or a reference to what is not registered, and
every endpoint has a path, an operation, and response keys that name a status.
-/

namespace ApiContract

/-- A node is declared in a registry, as a component, or as a parameter, the request body
or a response of an endpoint. -/
inductive Registry.Declares (r : Registry) : Node → Prop
  | component {c : Component} (member : c ∈ r.components) : Declares r c.node
  | parameter {e : Endpoint} {parameters : List Parameter} {p : Parameter}
      (member : e ∈ r.endpoints) (declared : e.parameters = .declared parameters)
      (listed : p ∈ parameters) : Declares r p.node
  | body {e : Endpoint} {slot : RequestBody} (member : e ∈ r.endpoints)
      (declared : e.body = some (.declared slot)) : Declares r slot.content
  | response {e : Endpoint} {responses : List (Value × Standing Response)} {key : Value}
      {n : Response} (member : e ∈ r.endpoints) (declared : e.responses = .declared responses)
      (listed : (key, .declared n) ∈ responses) : Declares r n

/-- A node is well formed itself exactly if it is neither an array that does not say what
it holds nor a reference to what is not registered. -/
theorem Node.wellFormed_facets_iff {registered : String → Prop} {m : Node} :
    m.facets.WellFormed registered ↔
      ¬(m.shape = .array ∧ (m.facets.element = none ∨ m.facets.element = some "")) ∧
        ¬(m.shape = .reference ∧ ¬∃ target, m.facets.target = some target ∧ registered target) := by
  constructor
  · intro formed
    constructor
    · rintro ⟨shape, missing⟩
      obtain ⟨element, elementEq, nonempty⟩ := formed.array shape
      rcases missing with none | empty
      · simp [none] at elementEq
      · exact nonempty (Option.some.inj (elementEq.symm.trans empty))
    · rintro ⟨shape, unregistered⟩
      exact unregistered (formed.reference shape)
  · rintro ⟨array, reference⟩
    constructor
    · intro shape
      cases element : m.facets.element with
      | none => exact absurd ⟨shape, Or.inl element⟩ array
      | some s =>
          refine ⟨s, rfl, ?_⟩
          rintro rfl
          exact array ⟨shape, Or.inr element⟩
    · intro shape
      by_contra unregistered
      exact reference ⟨shape, unregistered⟩

/-- A path that is a text or left out is given exactly if it is not left out and not
empty. -/
theorem Value.isGiven_iff_of_path {path : Value} (text : path = .null ∨ path.isText = true) :
    path.isGiven = true ↔ path ≠ .null ∧ path ≠ .str "" ∧ path ≠ .unpaired [] := by
  rcases text with rfl | text
  · simp [isGiven]
  · cases path with
    | str s => simp [isGiven]
    | unpaired codes => simp [isGiven]
    | tag t => simp [isGiven]
    | _ => simp [isText] at text

/-- A key that names a status has a text, unless it is a whole number with too many
digits. -/
theorem Status.shown_of_resolve {key : Value} {code : Int} (resolved : resolve key = .ok code)
    (short : ∀ n, key = .int n → n.natAbs < Number.digitCeiling) :
    ∃ text, key.shown = .ok text := by
  cases shown : key.shown with
  | ok text => exact ⟨text, rfl⟩
  | error failure =>
      cases key with
      | int n =>
          have fits := short n rfl
          simp [Value.shown, Value.display?, Value.quoted?, Number.intText?, fits] at shown
      | _ => simp [resolve, shown, Except.bind] at resolved

namespace Registry

variable {r : Registry}

/-- The nodes of an endpoint that is well formed are. -/
theorem wellFormed_of_declares {registered : String → Prop}
    (components : ∀ c ∈ r.components, c.node.WellFormed registered)
    (endpoints : ∀ e ∈ r.endpoints, e.WellFormed registered) {n : Node} (declared : r.Declares n) :
    n.WellFormed registered := by
  cases declared with
  | component member => exact components _ member
  | parameter member declared listed =>
      obtain ⟨parameters, equal, formed⟩ := (endpoints _ member).parameters
      cases declared.symm.trans equal
      exact formed _ listed
  | body member declared =>
      obtain ⟨n, node, formed⟩ := (endpoints _ member).body _ declared
      cases node
      exact formed
  | response member declared listed =>
      obtain ⟨responses, equal, formed⟩ := (endpoints _ member).responses
      cases declared.symm.trans equal
      obtain ⟨-, -, n, node, nFormed⟩ := formed _ listed
      cases node
      exact nFormed

/-- An endpoint that holds declarations only is well formed if its nodes are, and it has
a path, an operation, and response keys that name a status and have a text. -/
theorem wellFormed_of_regular {registered : String → Prop}
    (nodes : ∀ n, r.Declares n → n.WellFormed registered) {e : Endpoint} (member : e ∈ r.endpoints)
    (regular : e.Regular) (path : e.path.isGiven = true) (operations : e.operations.isGiven = true)
    (keys : ∀ responses, e.responses = .declared responses → ∀ response ∈ responses,
      (∃ text, response.1.shown = .ok text) ∧ ∃ code, Status.resolve response.1 = .ok code) :
    e.WellFormed registered := by
  obtain ⟨parameters, parametersEq, -⟩ := regular.parameters
  obtain ⟨responses, responsesEq, declared⟩ := regular.responses
  refine ⟨path, operations, ⟨parameters, parametersEq, ?_⟩, ?_, ⟨responses, responsesEq, ?_⟩⟩
  · intro p listed
    exact nodes _ (.parameter member parametersEq listed)
  · intro body bodyEq
    obtain ⟨slot, rfl, -⟩ := regular.body body bodyEq
    exact ⟨slot.content, rfl, nodes _ (.body member bodyEq)⟩
  · rintro ⟨key, response⟩ listed
    obtain ⟨n, rfl, -⟩ := declared _ listed
    obtain ⟨text, code⟩ := keys responses responsesEq _ listed
    exact ⟨text, code, n, rfl, nodes n (.response member responsesEq listed)⟩

/-- For a registry that is built by declaring, with texts for paths or none and response
keys that are no whole numbers with too many digits, the report is empty exactly if
component names differ, no node that stands in a declared tree is an array that does not
say what it holds or a reference to what is not registered, and every endpoint has a
path, an operation, and response keys that name a status. -/
theorem problems_eq_nil_iff_of_built (built : r.Built)
    (paths : ∀ e ∈ r.endpoints, e.path = .null ∨ e.path.isText = true)
    (keys : ∀ e ∈ r.endpoints, ∀ responses, e.responses = .declared responses →
      ∀ response ∈ responses, ∀ n, response.1 = .int n → n.natAbs < Number.digitCeiling) :
    r.problems = .ok [] ↔
      r.names.Nodup ∧
        (∀ n, r.Declares n → ∀ m, n.Contains m →
          ¬(m.shape = .array ∧ (m.facets.element = none ∨ m.facets.element = some "")) ∧
            ¬(m.shape = .reference ∧ ¬∃ target, m.facets.target = some target ∧
              target ∈ r.names)) ∧
        ∀ e ∈ r.endpoints,
          (e.path ≠ .null ∧ e.path ≠ .str "" ∧ e.path ≠ .unpaired []) ∧
            (∃ verb verbs, e.operations = .list (verb :: verbs)) ∧
            ∀ responses, e.responses = .declared responses →
              ∀ response ∈ responses, ∃ code, Status.resolve response.1 = .ok code := by
  have regular := built.regular
  rw [problems_eq_ok_nil_iff]
  simp only [← Node.wellFormed_facets_iff, has_eq_true_iff]
  constructor
  · rintro ⟨distinct, components, endpoints⟩
    refine ⟨distinct, fun n declared => wellFormed_of_declares components endpoints declared, ?_⟩
    intro e member
    have formed := endpoints e member
    refine ⟨(Value.isGiven_iff_of_path (paths e member)).mp formed.path, ?_, ?_⟩
    · obtain ⟨verbs, operations⟩ := (regular.endpoints e member).operations
      cases verbs with
      | nil => simpa [operations, Value.isGiven] using formed.operations
      | cons verb verbs => exact ⟨verb, verbs, operations⟩
    · intro responses responsesEq response listed
      obtain ⟨others, equal, answered⟩ := formed.responses
      cases responsesEq.symm.trans equal
      exact (answered response listed).2.1
  · rintro ⟨distinct, nodes, endpoints⟩
    refine ⟨distinct, fun c member => nodes _ (.component member), ?_⟩
    intro e member
    obtain ⟨path, ⟨verb, verbs, operations⟩, codes⟩ := endpoints e member
    have pathGiven : e.path.isGiven = true :=
      (Value.isGiven_iff_of_path (paths e member)).mpr path
    have operationsGiven : e.operations.isGiven = true := by
      simp [operations, Value.isGiven]
    refine wellFormed_of_regular nodes member (regular.endpoints e member) pathGiven
      operationsGiven ?_
    intro responses responsesEq response listed
    obtain ⟨code, resolved⟩ := codes responses responsesEq response listed
    exact ⟨Status.shown_of_resolve resolved (keys e member responses responsesEq response listed),
      code, resolved⟩

/-- Declaring pets, and an operation that answers with a list of them. -/
def petCalls : List Call :=
  [.component (.str "Pet") (.leaf [("type", .str "object")]),
    .endpoint [.setPath (.str "/pets"), .addOperations [.str "GET"],
      .addResponse (.str "ok") (.mk [(.str "type", .str "object")] false
        [(.str "pets", .leaf [("type", .str "array"), ("of", .str "Pet")])])]]

/-- The registry of pets. -/
def pets : Registry :=
  ⟨[⟨"Pet", .mk { Facets.blank with type := .named "object" } []⟩],
    [⟨.str "/pets", .str "", .list [.str "get"], .declared [], none,
      .declared [(.str "ok", .declared (.mk { Facets.blank with type := .named "object" }
        [("pets",
          ⟨true, .mk { Facets.blank with type := .named "array", element := "Pet" } []⟩)]))]⟩]⟩

/-- The pets are declared in full, as the empty report says. -/
theorem problems_eq_nil_pets :
    pets.Built ∧ pets.problems = .ok [] ∧
      (∀ n, pets.Declares n → ∀ m, n.Contains m →
        ¬(m.shape = .array ∧ (m.facets.element = none ∨ m.facets.element = some ""))) ∧
      ∀ e ∈ pets.endpoints, ∃ verb verbs, e.operations = .list (verb :: verbs) := by
  have built : pets.Built := by
    have equal : petCalls.foldl (fun r c => (r.call c).registry) .empty = pets := by
      decide +kernel
    rw [← equal]
    exact Built.empty.run (by simp [petCalls, Call.declares])
  have clean : pets.problems = .ok [] := by decide +kernel
  obtain ⟨-, nodes, endpoints⟩ := (problems_eq_nil_iff_of_built built
    (by simp [pets, Value.isText]) (by simp [pets])).mp clean
  exact ⟨built, clean, fun n declared m inside => (nodes n declared m inside).1,
    fun e member => (endpoints e member).2.1⟩

end Registry

end ApiContract
