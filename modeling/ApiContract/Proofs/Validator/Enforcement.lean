import ApiContract.Proofs.Validator.Endpoint
import ApiContract.Proofs.Validator.Relaxation

/-!
# Declarations that are enforced

The parameters of an endpoint and the properties of its body are fields of one
table, and a table has one field for a name.  So an input is accepted exactly if
each field alone would accept it, and the fields are the properties of the body
and those parameters whose name is not declared again: neither by a parameter
after them nor by the body.  A parameter whose name is declared again is not
enforced, wherever it is given.
-/

namespace ApiContract

variable {parameters : List Parameter} {body : Option Node} {input : Value}

namespace Validator

/-- A validator accepts an input. -/
def Accepts (v : Validator) (input : Value) : Prop :=
  ∃ report, v.validate input = .ok report ∧ report.success = true

/-- There is a validator of some parameters and a body, it is ready for use, and it accepts an
input. -/
def Admits (parameters : List Parameter) (body : Option Node) (input : Value) : Prop :=
  ∃ v, request? parameters body = some v ∧ v.ready = .ok v ∧ v.Accepts input

/-- A field of a request can be compiled, and finds nothing wrong with some entries. -/
def Admissible (entries : List (Value × Value)) (field : String × Slot Node) : Prop :=
  Node.nullInName field.1 field.2.content = false ∧
    fieldProblems .integer "RequestParams" entries field = []

/-- No field is, or leads to, an object that cannot be named exactly if this is so for each of
them. -/
theorem nullInNames_eq_false_iff {fields : Entries String (Slot Node)} :
    Node.nullInNames fields = false ↔
      ∀ field ∈ fields, Node.nullInName field.1 field.2.content = false := by
  induction fields with
  | nil => simp [Node.nullInNames]
  | cons field rest ih =>
      rcases field with ⟨name, required, n⟩
      rw [Node.nullInNames, Bool.or_eq_false_iff, ih, List.forall_mem_cons]

/-- An input is admitted exactly if there are fields and each of them admits its entries. -/
theorem admits_iff :
    Admits parameters body input ↔
      table parameters body ≠ [] ∧
        ∃ entries, input.toEntries = .ok entries ∧
          ∀ field ∈ table parameters body, Admissible entries field := by
  have accepts (v : Validator) : v.Accepts input ↔
      ∃ entries, input.toEntries = .ok entries ∧ (v.run entries).success = true := by
    simp [Accepts, validate]
  constructor
  · rintro ⟨v, compiled, ready, accepted⟩
    obtain ⟨nonempty, rfl⟩ := request?_eq_some_iff.mp compiled
    obtain ⟨entries, given, success⟩ := (accepts _).mp accepted
    rw [success_run_iff, problems_takeFields, List.flatMap_eq_nil_iff] at success
    rw [ready_iff, nullInNames_eq_false_iff] at ready
    exact ⟨nonempty, entries, given, fun field member => ⟨ready field member, success field member⟩⟩
  · rintro ⟨nonempty, entries, given, admissible⟩
    refine ⟨_, request?_eq_some_iff.mpr ⟨nonempty, rfl⟩, ?_, (accepts _).mpr ⟨entries, given, ?_⟩⟩
    · rw [ready_iff, nullInNames_eq_false_iff]
      exact fun field member => (admissible field member).1
    · rw [success_run_iff, problems_takeFields, List.flatMap_eq_nil_iff]
      exact fun field member => (admissible field member).2

/-- A parameter is declared last under its name: no parameter after it has the name, and no
property of the body. -/
def DeclaredLast (parameters : List Parameter) (body : Option Node) (p : Parameter) : Prop :=
  (∃ before after, parameters = before ++ p :: after ∧ ∀ q ∈ after, q.name ≠ p.name) ∧
    ∀ n, body = some n → p.name ∉ n.properties.keys

/-- Where no name is declared twice, every parameter is declared last under its name. -/
theorem declaredLast_of_distinct (distinct : (parameters.map (·.name)).Nodup)
    (apart : ∀ p ∈ parameters, ∀ n, body = some n → p.name ∉ n.properties.keys) {p : Parameter}
    (declared : p ∈ parameters) : DeclaredLast parameters body p := by
  obtain ⟨before, after, rfl⟩ := List.append_of_mem declared
  refine ⟨⟨before, after, rfl, ?_⟩, apart p declared⟩
  rw [List.map_append, List.map_cons, List.nodup_append, List.nodup_cons] at distinct
  intro q member equal
  exact distinct.2.1.1 (List.mem_map.mpr ⟨q, member, equal⟩)

/-- The fields of a request are the properties of its body and the parameters that are declared last
under their names. -/
theorem mem_table_iff (names : ∀ n, body = some n → n.properties.keys.Nodup) {name : String}
    {slot : Slot Node} :
    (name, slot) ∈ table parameters body ↔
      (∃ n, body = some n ∧ (name, slot) ∈ n.properties) ∨
        ∃ p, DeclaredLast parameters body p ∧ p.name = name ∧ p.slot = slot := by
  have parameter :
      Entries.get? (parameters.map fun p => (p.name, p.slot)).reverse name = some slot ↔
      ∃ p, (∃ before after, parameters = before ++ p :: after ∧ ∀ q ∈ after, q.name ≠ p.name) ∧
        p.name = name ∧ p.slot = slot := by
    rw [Entries.get?_reverse_eq_some_iff]
    constructor
    · rintro ⟨before, after, split, fresh⟩
      obtain ⟨first, rest, rfl, -, later⟩ := List.map_eq_append_iff.mp split
      obtain ⟨p, last, rfl, equal, rfl⟩ := List.map_eq_cons_iff.mp later
      cases equal
      refine ⟨p, ⟨first, last, rfl, ?_⟩, rfl, rfl⟩
      intro q member equal
      exact fresh (by simpa [Entries.keys] using ⟨q, member, equal⟩)
    · rintro ⟨p, ⟨before, after, rfl, other⟩, rfl, rfl⟩
      refine ⟨_, _, List.map_append, ?_⟩
      simpa [Entries.keys] using other
  rw [← Entries.get?_eq_some_iff (by rw [table_eq_ofList]; exact Entries.nodup_keys_ofList _),
    table_eq_ofList, Entries.get?_ofList, List.reverse_append, Entries.get?_append]
  cases body with
  | none => simpa [DeclaredLast] using parameter
  | some n =>
      have property : Entries.get? n.properties.reverse name = Entries.get? n.properties name := by
        rw [← Entries.get?_ofList, Entries.ofList_eq_self (names n rfl)]
      simp only [Option.map_some, Option.getD_some, property, Option.some.injEq, exists_eq_left']
      rw [← Entries.get?_eq_some_iff (names n rfl)]
      cases found : n.properties.get? name with
      | none =>
          have absent := Entries.get?_eq_none_iff.mp found
          rw [Option.none_or, parameter]
          constructor
          · rintro ⟨p, last, rfl, rfl⟩
            refine Or.inr ⟨p, ⟨last, ?_⟩, rfl, rfl⟩
            rintro m ⟨rfl⟩
            exact absent
          · rintro (none | ⟨p, ⟨last, -⟩, rfl, rfl⟩)
            · simp at none
            · exact ⟨p, last, rfl, rfl⟩
      | some other =>
          have listed : name ∈ n.properties.keys := by
            rw [← Entries.isSome_get?_iff, found]
            rfl
          rw [Option.some_or, iff_self_or]
          rintro ⟨p, ⟨-, apart⟩, rfl, -⟩
          exact absurd listed (apart n rfl)

/-- A parameter alone admits an input exactly if its field does. -/
theorem admits_parameter_iff {p : Parameter} :
    Admits [p] none input ↔
      ∃ entries, input.toEntries = .ok entries ∧ Admissible entries (p.name, p.slot) := by
  rw [admits_iff]
  simp [table, Entries.ofList, Entries.putAll]

/-- A property alone admits an input exactly if its field does. -/
theorem admits_property_iff {facets : Facets} {property : String × Slot Node} :
    Admits [] (some (.mk facets [property])) input ↔
      ∃ entries, input.toEntries = .ok entries ∧ Admissible entries property := by
  rw [admits_iff]
  simp [table, Entries.ofList, Entries.putAll, Node.properties]

/-- An input is admitted exactly if there are fields, each parameter that is declared last under its
name admits the input alone, and so does each property of the body. -/
theorem admits_iff_each (names : ∀ n, body = some n → n.properties.keys.Nodup) :
    Admits parameters body input ↔
      (parameters ≠ [] ∨ ∃ n, body = some n ∧ n.properties ≠ []) ∧
        (∀ p, DeclaredLast parameters body p → Admits [p] none input) ∧
        ∀ n, body = some n → ∀ property ∈ n.properties,
          Admits [] (some (.mk n.facets [property])) input := by
  have fields : table parameters body ≠ [] ↔
      parameters ≠ [] ∨ ∃ n, body = some n ∧ n.properties ≠ [] := by
    cases body <;> simp [table_eq_ofList, Entries.ofList_eq_nil_iff, ← not_and_or]
  simp only [admits_parameter_iff, admits_property_iff]
  rw [admits_iff, fields]
  refine and_congr_right fun nonempty => ?_
  constructor
  · rintro ⟨entries, given, admissible⟩
    constructor
    · intro p last
      exact ⟨entries, given, admissible _ ((mem_table_iff names).mpr (.inr ⟨p, last, rfl, rfl⟩))⟩
    · rintro n isBody property member
      exact ⟨entries, given, admissible _ ((mem_table_iff names).mpr (.inl ⟨n, isBody, member⟩))⟩
  · rintro ⟨eachParameter, eachProperty⟩
    -- All fields read the entries of one input, so those that the first field reads serve for all.
    have each : ∀ field ∈ table parameters body,
        ∃ entries, input.toEntries = .ok entries ∧ Admissible entries field := by
      rintro ⟨name, slot⟩ member
      rcases (mem_table_iff names).mp member with ⟨n, isBody, listed⟩ | ⟨p, last, rfl, rfl⟩
      · exact eachProperty n isBody _ listed
      · exact eachParameter p last
    obtain ⟨first, listed⟩ := List.exists_mem_of_ne_nil _ (fields.mpr nonempty)
    obtain ⟨entries, given, -⟩ := each first listed
    refine ⟨entries, given, fun field member => ?_⟩
    obtain ⟨others, same, admissible⟩ := each field member
    cases given.symm.trans same
    exact admissible

end Validator

namespace Endpoint

variable {e : Endpoint}

/-- The requests to an endpoint are validated, and an input is accepted. -/
def Accepts (e : Endpoint) (input : Value) : Prop :=
  ∃ v, e.requestValidator? = .ok (some v) ∧ v.ready = .ok v ∧ v.Accepts input

/-- An endpoint accepts what the parameters and the body that stand in it admit. -/
theorem accepts_iff_admits (standing : e.standingParameters = .ok parameters)
    (stands : e.body.mapM (Standing.node (·.content)) = .ok body) :
    e.Accepts input ↔ Validator.Admits parameters body input := by
  have compiled (v : Validator) : e.requestValidator? = .ok (some v) ↔
      Validator.request? parameters body = some v := by
    rw [requestValidator?, standing, Attempt.ok_do, stands, Attempt.ok_do, Attempt.pure_eq_ok_iff]
  simp only [Accepts, Validator.Admits, compiled]

/-- An endpoint accepts an input exactly if something is declared, and each property of its body and
each parameter that is declared last under its name accepts the input alone.  If no name is declared
twice, these are all parameters. -/
theorem accepts_iff_each (standing : e.standingParameters = .ok parameters)
    (stands : e.body.mapM (Standing.node (·.content)) = .ok body)
    (names : ∀ n, body = some n → n.properties.keys.Nodup) (input : Value) :
    (e.Accepts input ↔
      (parameters ≠ [] ∨ ∃ n, body = some n ∧ n.properties ≠ []) ∧
        (∀ p, Validator.DeclaredLast parameters body p → Validator.Admits [p] none input) ∧
        ∀ n, body = some n → ∀ property ∈ n.properties,
          Validator.Admits [] (some (.mk n.facets [property])) input) ∧
      ((parameters.map (·.name)).Nodup →
        (∀ p ∈ parameters, ∀ n, body = some n → p.name ∉ n.properties.keys) →
          e.Accepts input → ∀ p ∈ parameters, Validator.Admits [p] none input) := by
  have each := @accepts_iff_admits _ _ input _ standing stands
  rw [Validator.admits_iff_each names] at each
  refine ⟨each, ?_⟩
  intro distinct apart accepted p declared
  obtain ⟨-, parameter, -⟩ := each.mp accepted
  exact parameter p (Validator.declaredLast_of_distinct distinct apart declared)

/-- An endpoint with a number in its path, and with a text in its body under a key that is left
open. -/
def updating (key : String) : Endpoint :=
  { Endpoint.empty with
    parameters := .declared [⟨"id", "path", true, Validator.typed "number" []⟩]
    body := some (.declared
      ⟨true, Validator.typed "object" [(key, ⟨false, Validator.typed "string" []⟩)]⟩) }

/-- A number that is none is not accepted where the text has another key. -/
theorem accepts_iff_each_updating :
    ¬(updating "name").Accepts (.dict [(.str "id", .str "first")]) := by
  intro accepted
  obtain ⟨-, enforced⟩ := accepts_iff_each (e := updating "name") rfl rfl
    (by rintro n ⟨rfl⟩; simp [Validator.typed, Node.properties])
    (.dict [(.str "id", .str "first")])
  have alone := enforced (by simp) (by simp [Validator.typed, Node.properties]) accepted _
    List.mem_cons_self
  obtain ⟨v, compiled, -, report, validated, success⟩ := alone
  cases compiled
  cases validated
  exact absurd success (by decide +kernel)

/-- A number that is none is accepted where the text has the same key, though the parameter alone
does not accept it. -/
theorem accepts_without_parameter :
    ∃ p input, (updating "id").parameters = .declared [p] ∧ (updating "id").Accepts input ∧
      ¬Validator.Admits [p] none input := by
  refine ⟨_, .dict [(.str "id", .str "first")], rfl, ⟨_, rfl, rfl, _, rfl, by decide +kernel⟩, ?_⟩
  rintro ⟨v, compiled, -, report, validated, success⟩
  cases compiled
  cases validated
  exact absurd success (by decide +kernel)

end Endpoint

end ApiContract
