import ApiContract.Proofs.Document.Visible
import ApiContract.Proofs.Validator.Rule

/-!
# What is required in a schema

The schema of an object or a scalar lists the names of the required properties,
and shows the schemas of all properties by name.  So a chain of names that leads
from one object with properties to the next leads from schema to schema too, and
at its end the names of what is required stand again.
-/

namespace ApiContract

open Value (record)

/-- A chain of names leads from a node to another through objects with properties. -/
inductive Node.Leads : Node → List String → Node → Prop
  | here (n : Node) : Leads n [] n
  | step {n m : Node} {name : String} {slot : Slot Node} {chain : List String}
      (declared : (name, slot) ∈ n.properties) (isModel : slot.content.IsModel)
      (further : Leads slot.content chain m) : Leads n (name :: chain) m

/-- The keys that lead in a schema to where a chain of names leads. -/
def schemaKeys (chain : List String) : List String :=
  chain.flatMap fun name => ["properties", name]

/-- A schema requires a name behind a chain of names. -/
def Value.Requires (schema : Value) (chain : List String) (name : String) : Prop :=
  ∃ names, schema.descend? (schemaKeys chain ++ ["required"]) = some (.list names) ∧
    .str name ∈ names

variable {registered : String → Bool}

/-! ### Entries of a schema -/

/-- Under the keys of what is shown of properties nothing else stands in the schema of an object or
a scalar. -/
theorem Facets.get?_schema {f : Facets} (shape : f.shape = .object ∨ f.shape = .scalar)
    {key : String} (ofBlock : key = "required" ∨ key = "properties") (block : Mapping) :
    Entries.get? (f.schema registered block) key = Entries.get? block key := by
  have parts : f.schema registered block =
      (f.typeMark ++ [("description", .str f.description)] ++ f.valueMarks) ++ block := by
    rcases shape with shape | shape <;> simp [schema, shape]
  have own : Entries.keys (f.typeMark ++ [("description", .str f.description)] ++ f.valueMarks) ⊆
      ["type", "description", "enum", "nullable"] := by
    rw [typeMark_eq]
    simp only [Entries.keys, List.map_append, List.append_subset]
    exact ⟨⟨List.Subset.trans (Face.keys_typeEntry f.type) (by simp), by simp⟩,
      List.Subset.trans f.keys_valueMarks (by simp)⟩
  have apart : key ∉ ["type", "description", "enum", "nullable"] := by
    rcases ofBlock with rfl | rfl <;> simp
  rw [parts, Entries.get?_append, Entries.get?_eq_none_iff.mpr (mt (@own key) apart), Option.none_or]

/-- The names of required properties stand under a key of their own. -/
theorem get?_required_propertiesBlock {required : List String} {schemas : Entries String Mapping}
    (shown : ∀ e ∈ schemas, e.2 ≠ []) :
    Entries.get? (propertiesBlock required schemas) "required" =
      if required = [] then none else some (.list (required.map .str)) := by
  rw [propertiesBlock_eq shown]
  by_cases none : required = [] <;> by_cases empty : schemas = [] <;>
    simp [requiredEntry, propertiesEntry, none, empty, Entries.get?_cons]

/-- The schemas of properties stand under a key of their own. -/
theorem get?_properties_propertiesBlock {required : List String}
    {schemas : Entries String Mapping} (shown : ∀ e ∈ schemas, e.2 ≠ []) :
    Entries.get? (propertiesBlock required schemas) "properties" =
      if schemas = [] then none else some (record (Entries.mapValues record schemas)) := by
  rw [propertiesBlock_eq shown]
  by_cases none : required = [] <;> by_cases empty : schemas = [] <;>
    simp [requiredEntry, propertiesEntry, none, empty, Entries.get?_cons]

namespace Node

/-- Under the name of a property stands its schema. -/
theorem get?_schemas (properties : Entries String (Slot Node)) (name : String) :
    Entries.get? (schemas registered properties) name =
      (properties.get? name).map fun slot => slot.content.schema registered := by
  rw [schemas_eq_mapValues, Entries.get?_mapValues]

/-- What stands in the schema of an object or a scalar under the keys of what is shown of its
properties. -/
theorem get?_schema {n : Node} (shape : n.shape = .object ∨ n.shape = .scalar) {key : String}
    (ofBlock : key = "required" ∨ key = "properties") :
    Entries.get? (n.schema registered) key =
      Entries.get? (propertiesBlock (requiredNames n.properties)
        (schemas registered n.properties)) key := by
  cases n with
  | mk facets properties =>
      have shows : facets.showsProperties = true := by
        rcases shape with shape | shape <;>
          simp only [Node.shape, Node.facets] at shape <;> simp [Facets.showsProperties, shape]
      rw [schema, if_pos shows]
      exact Facets.get?_schema shape ofBlock _

/-- The schema of a property stands in the schema of its node. -/
theorem descend?_schema {n : Node} (shape : n.shape = .object ∨ n.shape = .scalar)
    (names : n.properties.keys.Nodup) {name : String} {slot : Slot Node}
    (declared : (name, slot) ∈ n.properties) (keys : List String) :
    (record (n.schema registered)).descend? ("properties" :: name :: keys) =
      (record (slot.content.schema registered)).descend? keys := by
  have found := (Entries.get?_eq_some_iff names).mpr declared
  have shown : Entries.get? (schemas registered n.properties) name =
      some (slot.content.schema registered) := by
    rw [get?_schemas, found, Option.map_some]
  have some : schemas registered n.properties ≠ [] := by
    intro none
    simp [none] at shown
  rw [Value.descend?_record_cons, get?_schema shape (.inr rfl),
    get?_properties_propertiesBlock ne_nil_of_mem_schemas, if_neg some, Option.bind_some,
    Value.descend?_record_cons, Entries.get?_mapValues, shown, Option.map_some, Option.bind_some]

/-- The schema of a node to which names lead stands where the keys for them lead. -/
theorem Leads.descend?_schema {n m : Node} {chain : List String} (leads : n.Leads chain m)
    (distinct : n.Distinct) (shape : n.shape = .object ∨ n.shape = .scalar) (keys : List String) :
    (record (n.schema registered)).descend? (schemaKeys chain ++ keys) =
      (record (m.schema registered)).descend? keys := by
  induction leads with
  | here => rfl
  | @step n m name slot chain declared isModel further ih =>
      rw [schemaKeys, List.flatMap_cons, ← schemaKeys, List.append_assoc, List.cons_append,
        List.cons_append, List.nil_append, Node.descend?_schema shape distinct.names declared,
        ih (distinct.property declared) (.inl isModel.1)]

theorem Leads.distinct {n m : Node} {chain : List String} (leads : n.Leads chain m)
    (distinct : n.Distinct) : m.Distinct := by
  induction leads with
  | here => exact distinct
  | step declared _ _ ih => exact ih (distinct.property declared)

/-- Names lead from an object or a scalar to such nodes only. -/
theorem Leads.shape {n m : Node} {chain : List String} (leads : n.Leads chain m)
    (shape : n.shape = .object ∨ n.shape = .scalar) : m.shape = .object ∨ m.shape = .scalar := by
  induction leads with
  | here => exact shape
  | step _ isModel _ ih => exact ih (.inl isModel.1)

/-- A property is among the required names exactly if it is required. -/
theorem mem_requiredNames_iff {properties : Entries String (Slot Node)}
    (names : properties.keys.Nodup) {name : String} {slot : Slot Node}
    (declared : (name, slot) ∈ properties) :
    name ∈ requiredNames properties ↔ slot.required = true := by
  constructor
  · intro listed
    obtain ⟨⟨_, other⟩, member, rfl⟩ := List.mem_map.mp listed
    obtain ⟨declared', required⟩ := List.mem_filter.mp member
    obtain rfl := Entries.eq_of_mem names declared' declared
    exact required
  · intro required
    exact List.mem_map.mpr ⟨(name, slot), List.mem_filter.mpr ⟨declared, required⟩, rfl⟩

/-- A schema requires a name behind a chain of names exactly if the property is required. -/
theorem Leads.requires_iff {n m : Node} {chain : List String} (leads : n.Leads chain m)
    (distinct : n.Distinct) (shape : n.shape = .object ∨ n.shape = .scalar) {name : String}
    {slot : Slot Node} (declared : (name, slot) ∈ m.properties) :
    (record (n.schema registered)).Requires chain name ↔ slot.required = true := by
  rw [← mem_requiredNames_iff (leads.distinct distinct).names declared, Value.Requires]
  simp only [leads.descend?_schema distinct shape, Value.descend?_record_cons,
    get?_schema (leads.shape shape) (.inl rfl), get?_required_propertiesBlock ne_nil_of_mem_schemas]
  by_cases none : requiredNames m.properties = [] <;> simp [none]

/-! ### Schemas as the description of content -/

/-- Without its description a schema requires the same. -/
theorem requires_contentSchema_iff {n : Node} {content : Mapping}
    (described : n.contentSchema? registered = .ok content) {chain : List String} {name : String} :
    (record content).Requires chain name ↔ (record (n.schema registered)).Requires chain name := by
  obtain ⟨schema, compiled, rfl⟩ := Attempt.map_eq_ok_iff.mp described
  obtain ⟨-, rfl⟩ := schema?_eq_ok_iff.mp compiled
  have kept : ∀ key, key ≠ "description" → ∀ keys,
      (record ((n.schema registered).filter (·.1 != "description"))).descend? (key :: keys) =
        (record (n.schema registered)).descend? (key :: keys) := by
    intro key other keys
    rw [Value.descend?_record_cons, Value.descend?_record_cons,
      Entries.get?_filter (n.schema registered) (p := (· != "description")) (by simpa using other)]
  cases chain with
  | nil =>
      have first := kept "required" (by decide) []
      simp only [Value.Requires, schemaKeys, List.flatMap_nil, List.nil_append, first]
  | cons next chain =>
      have first := kept "properties" (by decide) (next :: (schemaKeys chain ++ ["required"]))
      simp only [schemaKeys] at first
      simp only [Value.Requires, schemaKeys, List.flatMap_cons, List.cons_append, List.nil_append,
        first]

end Node

end ApiContract
