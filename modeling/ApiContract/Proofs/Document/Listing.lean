import ApiContract.Proofs.Document.Position
import ApiContract.Proofs.Document.Required

/-!
# What schemas list of properties

The schema of an object or a scalar lists the properties of the node, and so do the
items of an array of objects.  No schema is empty, so all properties are listed, in
their order, and the names of those that have to be given are names of listed
properties.  Nothing else in a schema lists anything.
-/

namespace ApiContract

open Value (record holds_record_iff exists_of_holds_record Subschema)

/-- The keys under which properties are listed. -/
def listingNames : List String :=
  ["required", "properties"]

/-- The schemas of all properties of a node, by name and in the order of declaration. -/
def Node.propertySchemas (registered : String → Bool) (n : Node) : Mapping :=
  n.properties.map fun p => (p.1, record (p.2.content.schema registered))

@[simp]
theorem Node.keys_propertySchemas (registered : String → Bool) (n : Node) :
    (n.propertySchemas registered).keys = n.properties.keys := by
  simp [propertySchemas, Entries.keys]

/-- A part of a schema lists the properties of a node: all of them by name, with their schemas, and
the names of those that have to be given, each once.  An entry that would say nothing is not
there. -/
structure Value.Lists (registered : String → Bool) (part : Value) (n : Node) : Prop where
  properties : part.descend? ["properties"] =
    if n.properties = [] then none
    else some (record (n.propertySchemas registered))
  required : part.descend? ["required"] =
    if requiredNames n.properties = [] then none
    else some (.list ((requiredNames n.properties).map .str))
  once : (requiredNames n.properties).Nodup

namespace Node

/-- The keys that lead from the schema of a node to what lists its properties. -/
def listingKeys (n : Node) : List String :=
  if n.shape = .array then ["items"] else []

/-- Keys lead from the schema of a node to that of another, from one listed property to the
next. -/
inductive ListedAt (n : Node) : List String → Node → Prop
  | here : ListedAt n [] n
  | property {m : Node} {keys : List String} {name : String} {slot : Slot Node}
      (listed : ListedAt n keys m) (shows : m.facets.showsProperties = true)
      (declared : (name, slot) ∈ m.properties) :
      ListedAt n (keys ++ m.listingKeys ++ ["properties", name]) slot.content

/-- What lists the properties of a node: its schema, or the items of that. -/
def listing (registered : String → Bool) (n : Node) : Mapping :=
  if n.shape = .array then
    n.facets.items registered ++ n.facets.nullableMark ++ n.block registered
  else n.schema registered

end Node

/-- Keys lead on from where keys lead. -/
theorem Value.descend?_append (v : Value) (keys more : List String) :
    v.descend? (keys ++ more) = (v.descend? keys).bind (descend? · more) := by
  induction keys generalizing v with
  | nil => simp
  | cons key keys ih =>
      cases v with
      | dict entries =>
          rw [List.cons_append, descend?, descend?, Option.bind_assoc]
          exact Option.bind_congr fun w _ => ih w
      | _ => rfl

variable {registered : String → Bool}

/-! ### What a listing says -/

namespace Node

/-- The keys of a listing that say something else. -/
def otherNames : List String :=
  ["$ref", "type", "description", "enum", "nullable"]

theorem schema_eq_facets (n : Node) :
    n.schema registered = n.facets.schema registered
      (if n.facets.showsProperties then n.block registered else []) := by
  cases n
  rfl

theorem schema_of_array {n : Node} (array : n.shape = .array) :
    n.schema registered = [("type", n.facets.type.toValue),
      ("description", .str n.facets.description),
      ("items", record (n.facets.items registered ++ n.facets.nullableMark ++
        if n.facets.showsProperties then n.block registered else []))] := by
  rw [Node.shape] at array
  simp only [schema_eq_facets, Facets.schema, array]

theorem schema_of_union {n : Node} (union : n.shape = .union) :
    n.schema registered =
      [("anyOf", .list (n.facets.members.map fun m => record [("type", m.normalized)])),
        ("description", .str n.facets.description)] ++ n.facets.valueMarks := by
  rw [Node.shape] at union
  simp only [schema_eq_facets, Facets.schema, union]

theorem schema_of_reference {n : Node} (reference : n.shape = .reference) :
    n.schema registered =
      if n.facets.type = .named "array" then
        [("type", .str "array"), ("items", record (refTo (n.facets.target.getD "")))]
      else refTo (n.facets.target.getD "") ++ n.facets.nullableMark := by
  rw [Node.shape] at reference
  simp only [schema_eq_facets, Facets.schema, reference, beq_iff_eq]

theorem shows_of_plain {n : Node} (shape : n.shape = .object ∨ n.shape = .scalar) :
    n.facets.showsProperties = true := by
  rw [Node.shape] at shape
  rcases shape with shape | shape <;> simp [Facets.showsProperties, shape]

theorem schema_of_plain {n : Node} (shape : n.shape = .object ∨ n.shape = .scalar) :
    n.schema registered = n.facets.typeMark ++ [("description", .str n.facets.description)] ++
      n.facets.valueMarks ++ n.block registered := by
  rw [schema_eq_facets, if_pos (shows_of_plain shape)]
  rw [Node.shape] at shape
  rcases shape with shape | shape <;> simp only [Facets.schema, shape]

theorem shape_of_shows {n : Node} (shows : n.facets.showsProperties = true)
    (array : n.shape ≠ .array) : n.shape = .object ∨ n.shape = .scalar := by
  rw [Node.shape] at array ⊢
  rw [Facets.showsProperties] at shows
  cases shape : n.facets.shape with
  | object => exact .inl rfl
  | scalar => exact .inr rfl
  | array => exact absurd shape array
  | reference | union => simp [shape] at shows

/-- The properties are what a listing says last. -/
theorem listing_eq {n : Node} (shows : n.facets.showsProperties = true) :
    ∃ own : Mapping, n.listing registered = own ++ n.block registered ∧ own.keys ⊆ otherNames := by
  by_cases array : n.shape = .array
  · refine ⟨n.facets.items registered ++ n.facets.nullableMark, if_pos array, ?_⟩
    rw [Entries.keys, List.map_append, Facets.items_eq]
    exact List.append_subset.mpr
      ⟨List.Subset.trans (Face.keys_elementEntry _) (by simp [otherNames]),
        List.Subset.trans n.facets.keys_nullableMark (by simp [otherNames])⟩
  · refine ⟨_, (if_neg array).trans (schema_of_plain (shape_of_shows shows array)), ?_⟩
    simp only [Entries.keys, List.map_append, List.append_subset, Facets.typeMark_eq]
    exact ⟨⟨List.Subset.trans (Face.keys_typeEntry _) (by simp [otherNames]), by simp [otherNames]⟩,
      List.Subset.trans n.facets.keys_valueMarks (by simp [otherNames])⟩

/-- Under the keys of a listing for properties stands what is shown of them. -/
theorem get?_listing {n : Node} (shows : n.facets.showsProperties = true) {key : String}
    (lists : key ∈ listingNames) :
    Entries.get? (n.listing registered) key = Entries.get? (n.block registered) key := by
  rcases @listing_eq registered n shows with ⟨own, parts, other⟩
  have apart : listingNames.Disjoint otherNames := by simp [listingNames, otherNames]
  have none : Entries.get? own key = none :=
    Entries.get?_eq_none_iff.mpr fun listed => apart lists (other listed)
  rw [parts, Entries.get?_append, none, Option.none_or]

/-- The entry that a listing has under the key of the properties holds the schemas of all of
them. -/
theorem get?_properties_listing {n : Node} (shows : n.facets.showsProperties = true) :
    Entries.get? (n.listing registered) "properties" =
      if n.properties = [] then none
      else some (record (n.propertySchemas registered)) := by
  rw [get?_listing shows (by simp [listingNames]), block,
    get?_properties_propertiesBlock ne_nil_of_mem_schemas, schemas_eq_mapValues]
  simp [Entries.mapValues, Function.comp_def, propertySchemas]

/-- What lists the properties of a node lists them all, and which have to be given. -/
theorem lists_listing {n : Node} (shows : n.facets.showsProperties = true)
    (names : n.properties.keys.Nodup) : (record (n.listing registered)).Lists registered n where
  properties := by
    rw [Value.descend?_record_cons, get?_properties_listing shows]
    simp
  required := by
    rw [Value.descend?_record_cons, get?_listing shows (by simp [listingNames]), block,
      get?_required_propertiesBlock ne_nil_of_mem_schemas]
    simp
  once := names.sublist (List.filter_sublist.map _)

/-! ### Where properties are listed -/

/-- What lists the properties of a node stands in its schema. -/
theorem descend?_listingKeys {n : Node} (shows : n.facets.showsProperties = true) :
    (record (n.schema registered)).descend? n.listingKeys = some (record (n.listing registered)) := by
  by_cases array : n.shape = .array
  · rw [listingKeys, if_pos array, listing, if_pos array, schema_of_array array, if_pos shows]
    simp [Entries.get?_cons]
  · rw [listingKeys, if_neg array, listing, if_neg array, Value.descend?_nil]

/-- The schema of a property stands in what lists the properties of its node. -/
theorem descend?_listing {n : Node} (shows : n.facets.showsProperties = true)
    (names : n.properties.keys.Nodup) {name : String} {slot : Slot Node}
    (declared : (name, slot) ∈ n.properties) :
    (record (n.listing registered)).descend? ["properties", name] =
      some (record (slot.content.schema registered)) := by
  have member : (name, record (slot.content.schema registered)) ∈ n.propertySchemas registered :=
    List.mem_map_of_mem declared
  have found := (Entries.get?_eq_some_iff (by simpa using names)).mpr member
  rw [Value.descend?_record_cons, get?_properties_listing shows,
    if_neg (List.ne_nil_of_mem declared), Option.bind_some, Value.descend?_record_cons, found,
    Option.bind_some, Value.descend?_nil]

theorem ListedAt.distinct {n m : Node} {keys : List String} (listed : n.ListedAt keys m)
    (distinct : n.Distinct) : m.Distinct := by
  induction listed with
  | here => exact distinct
  | property _ _ declared ih => exact ih.property declared

/-- The schema of a node stands where it is listed. -/
theorem ListedAt.descend?_schema {n m : Node} {keys : List String} (listed : n.ListedAt keys m)
    (distinct : n.Distinct) :
    (record (n.schema registered)).descend? keys = some (record (m.schema registered)) := by
  induction listed with
  | here => rw [Value.descend?_nil]
  | property listed shows declared ih =>
      rw [Value.descend?_append, Value.descend?_append, ih, Option.bind_some,
        descend?_listingKeys shows, Option.bind_some,
        descend?_listing shows (listed.distinct distinct).names declared]

/-- What lists the properties of a node stands behind the schema of the node. -/
theorem ListedAt.descend?_listing {n m : Node} {keys : List String} (listed : n.ListedAt keys m)
    (distinct : n.Distinct) (shows : m.facets.showsProperties = true) :
    (record (n.schema registered)).descend? (keys ++ m.listingKeys) =
      some (record (m.listing registered)) := by
  rw [Value.descend?_append, listed.descend?_schema distinct, Option.bind_some,
    descend?_listingKeys shows]

end Node

/-! ### What stands in a schema -/

/-- A schema stands in another as that of a property, of the items or of a member. -/
inductive Value.Inner (schema child : Value) : Prop
  | property {properties name : Value} (held : schema.Holds (.str "properties") properties)
      (named : properties.Holds name child)
  | items (held : schema.Holds (.str "items") child)
  | member {members : List Value} (held : schema.Holds (.str "anyOf") (.list members))
      (listed : child ∈ members)

/-- What holds an inner schema has a key for it. -/
theorem Value.Inner.mem_keys {entries : Mapping} {child : Value}
    (inner : (record entries).Inner child) :
    ∃ key ∈ ["properties", "items", "anyOf"], key ∈ entries.keys := by
  cases inner with
  | property held _ => exact ⟨_, by simp, List.mem_map_of_mem (holds_record_iff.mp held)⟩
  | items held => exact ⟨_, by simp, List.mem_map_of_mem (holds_record_iff.mp held)⟩
  | member held _ => exact ⟨_, by simp, List.mem_map_of_mem (holds_record_iff.mp held)⟩

/-- What all inner schemas keep is kept by everything that stands in a schema. -/
theorem Value.Subschema.of_inner {P : Value → Prop} {schema part : Value}
    (stands : Subschema schema part) (start : P schema)
    (inner : ∀ v child, P v → v.Inner child → P child) : P part := by
  induction stands with
  | here => exact start
  | property held named _ ih => exact ih (inner _ _ start (.property held named))
  | items held _ ih => exact ih (inner _ _ start (.items held))
  | member held listed _ ih => exact ih (inner _ _ start (.member held listed))

/-- A value is a record of nothing but a type, or the reference to a component, and whether null
is allowed. -/
def Value.Bare (v : Value) : Prop :=
  ∃ entries : Mapping, v = record entries ∧ entries.keys ⊆ ["$ref", "type", "nullable"]

/-- No schema stands in a bare value. -/
theorem Value.Bare.not_inner {v child : Value} (bare : v.Bare) : ¬ v.Inner child := by
  intro inner
  rcases bare with ⟨entries, rfl, keys⟩
  rcases inner.mem_keys with ⟨key, inside, listed⟩
  have apart : ["properties", "items", "anyOf"].Disjoint ["$ref", "type", "nullable"] := by simp
  exact apart inside (keys listed)

namespace Node

theorem keys_block_subset (n : Node) : (n.block registered).keys ⊆ listingNames :=
  isBlock_propertiesBlock ne_nil_of_mem_schemas

/-- What is shown of properties under their key are the schemas of all of them. -/
theorem eq_of_mem_block {n : Node} {v : Value} (listed : ("properties", v) ∈ n.block registered) :
    v = record (n.propertySchemas registered) := by
  have apart : ("properties", v) ∉ (requiredEntry (requiredNames n.properties)).toList := by
    intro listed
    have key := keys_requiredEntry _ (List.mem_map_of_mem listed)
    simp at key
  rw [block, propertiesBlock_eq ne_nil_of_mem_schemas, List.mem_append] at listed
  have entry := listed.resolve_left apart
  rw [Option.mem_toList, propertiesEntry] at entry
  split at entry
  · cases entry
  · rw [schemas_eq_mapValues] at entry
    simpa [Entries.mapValues, Function.comp_def, propertySchemas] using
      (Prod.mk.inj (Option.some.inj entry)).2.symm

/-- What stands in a listing as a schema is the schema of a property. -/
theorem inner_listing {n : Node} {child : Value} (shows : n.facets.showsProperties = true)
    (inner : (record (n.listing registered)).Inner child) :
    ∃ name slot, (name, slot) ∈ n.properties ∧
      child = record (slot.content.schema registered) := by
  rcases @listing_eq registered n shows with ⟨own, parts, other⟩
  have keys : (n.listing registered).keys ⊆ otherNames ++ listingNames := by
    rw [parts, Entries.keys, List.map_append]
    exact List.append_subset.mpr ⟨List.subset_append_of_subset_left _ other,
      List.subset_append_of_subset_right _ n.keys_block_subset⟩
  cases inner with
  | @property schemas name held named =>
      have listed := holds_record_iff.mp held
      rw [parts, List.mem_append] at listed
      have apart : ("properties", schemas) ∉ own := by
        intro listed
        have key := other (List.mem_map_of_mem listed)
        simp [otherNames] at key
      rw [eq_of_mem_block (listed.resolve_left apart)] at named
      obtain ⟨name, rfl, shown⟩ := exists_of_holds_record named
      rcases List.mem_map.mp shown with ⟨⟨name, slot⟩, declared, equal⟩
      cases equal
      exact ⟨name, slot, declared, rfl⟩
  | items held =>
      have listed := keys (List.mem_map_of_mem (holds_record_iff.mp held))
      simp [otherNames, listingNames] at listed
  | member held =>
      have listed := keys (List.mem_map_of_mem (holds_record_iff.mp held))
      simp [otherNames, listingNames] at listed

/-- In the schema of an array stand its items, which list the properties or are bare. -/
theorem inner_schema_array {n : Node} (array : n.shape = .array) {child : Value}
    (inner : (record (n.schema registered)).Inner child) :
    (n.facets.showsProperties = true ∧ child = record (n.listing registered)) ∨ child.Bare := by
  rw [schema_of_array array] at inner
  cases inner with
  | property held _ => simp [holds_record_iff] at held
  | member held _ => simp [holds_record_iff] at held
  | items held =>
      have equal : child = record (n.facets.items registered ++ n.facets.nullableMark ++
          if n.facets.showsProperties then n.block registered else []) := by
        simpa [holds_record_iff] using held
      cases shows : n.facets.showsProperties with
      | true => exact .inl ⟨rfl, by rw [equal, shows, if_pos rfl, listing, if_pos array]⟩
      | false =>
          rw [shows, if_neg Bool.false_ne_true, List.append_nil] at equal
          refine .inr ⟨_, equal, ?_⟩
          rw [Entries.keys, List.map_append, Facets.items_eq]
          exact List.append_subset.mpr
            ⟨List.Subset.trans (Face.keys_elementEntry _) (by simp),
              List.Subset.trans (Facets.keys_nullableMark _) (by simp)⟩

/-- In the schema of a union stand its members, which are bare. -/
theorem inner_schema_union {n : Node} (union : n.shape = .union) {child : Value}
    (inner : (record (n.schema registered)).Inner child) : child.Bare := by
  rw [schema_of_union union] at inner
  have apart : ∀ {key v}, (key, v) ∈ n.facets.valueMarks → key ∈ ["enum", "nullable"] :=
    fun listed => n.facets.keys_valueMarks (List.mem_map_of_mem listed)
  cases inner with
  | property held _ =>
      have listed := apart (by simpa [holds_record_iff] using held)
      simp at listed
  | items held =>
      have listed := apart (by simpa [holds_record_iff] using held)
      simp at listed
  | @member members held listed =>
      rw [holds_record_iff, List.mem_append] at held
      have member := held.resolve_right fun marked => by simpa using apart marked
      have equal : members = n.facets.members.map fun m => record [("type", m.normalized)] := by
        simpa using member
      rw [equal] at listed
      rcases List.mem_map.mp listed with ⟨m, -, rfl⟩
      exact ⟨_, rfl, by simp⟩

/-- In the schema of a reference stands nothing but the items of an array, and they are bare. -/
theorem inner_schema_reference {n : Node} (reference : n.shape = .reference) {child : Value}
    (inner : (record (n.schema registered)).Inner child) : child.Bare := by
  rw [schema_of_reference reference] at inner
  by_cases array : n.facets.type = .named "array"
  · rw [if_pos array] at inner
    cases inner with
    | property held _ => simp [holds_record_iff] at held
    | member held _ => simp [holds_record_iff] at held
    | items held =>
        have equal : child = record (refTo (n.facets.target.getD "")) := by
          simpa [holds_record_iff] using held
        exact ⟨_, equal, by simp [refTo]⟩
  · have bare : (record (refTo (n.facets.target.getD "") ++ n.facets.nullableMark)).Bare := by
      refine ⟨_, rfl, ?_⟩
      rw [Entries.keys, List.map_append]
      exact List.append_subset.mpr
        ⟨by simp [refTo], List.Subset.trans n.facets.keys_nullableMark (by simp)⟩
    rw [if_neg array] at inner
    exact absurd inner bare.not_inner

/-- The schema of an object or a scalar lists the properties itself. -/
theorem schema_eq_listing {n : Node} (shape : n.shape = .object ∨ n.shape = .scalar) :
    n.schema registered = n.listing registered := by
  rw [listing, if_neg]
  rcases shape with shape | shape <;> simp [shape]

/-- What stands in the schema of a node as a schema: those of its properties or what lists them,
and bare values. -/
theorem inner_schema {n : Node} {child : Value}
    (inner : (record (n.schema registered)).Inner child) :
    (n.facets.showsProperties = true ∧ ∃ name slot, (name, slot) ∈ n.properties ∧
      child = record (slot.content.schema registered)) ∨
      (n.facets.showsProperties = true ∧ child = record (n.listing registered)) ∨ child.Bare := by
  have plain : n.shape = .object ∨ n.shape = .scalar →
      n.facets.showsProperties = true ∧ ∃ name slot, (name, slot) ∈ n.properties ∧
        child = record (slot.content.schema registered) := by
    intro shape
    rw [schema_eq_listing shape] at inner
    exact ⟨shows_of_plain shape, inner_listing (shows_of_plain shape) inner⟩
  cases shape : n.shape with
  | object => exact .inl (plain (.inl shape))
  | scalar => exact .inl (plain (.inr shape))
  | array => exact .inr (inner_schema_array shape inner)
  | union => exact .inr (.inr (inner_schema_union shape inner))
  | reference => exact .inr (.inr (inner_schema_reference shape inner))

/-- Only the schema of an object or a scalar lists properties itself. -/
theorem shape_of_holds {n : Node} {key : String} {v : Value} (lists : key ∈ listingNames)
    (held : (record (n.schema registered)).Holds (.str key) v) :
    n.shape = .object ∨ n.shape = .scalar := by
  have names : listingNames.Disjoint
      ["$ref", "type", "description", "items", "anyOf", "enum", "nullable"] := by
    simp [listingNames]
  have apart : ∀ {entries : Mapping}, entries.keys ⊆
      ["$ref", "type", "description", "items", "anyOf", "enum", "nullable"] →
        (key, v) ∉ entries := fun keys listed =>
    names lists (keys (List.mem_map_of_mem listed))
  rw [holds_record_iff] at held
  cases shape : n.shape with
  | object => exact .inl rfl
  | scalar => exact .inr rfl
  | array =>
      rw [schema_of_array shape] at held
      exact absurd held (apart (by simp))
  | union =>
      rw [schema_of_union shape] at held
      refine absurd held (apart ?_)
      rw [Entries.keys, List.map_append]
      exact List.append_subset.mpr
        ⟨by simp, List.Subset.trans n.facets.keys_valueMarks (by simp)⟩
  | reference =>
      rw [schema_of_reference shape] at held
      refine absurd held (apart ?_)
      split
      · simp
      · rw [Entries.keys, List.map_append]
        exact List.append_subset.mpr
          ⟨by simp [refTo], List.Subset.trans n.facets.keys_nullableMark (by simp)⟩

end Node

/-! ### All that is listed -/

/-- What stands in the schema of a node: the schemas of nodes that are listed, what lists their
properties, and bare values. -/
inductive Node.Part (registered : String → Bool) (n : Node) : Value → Prop
  | schema {m : Node} {keys : List String} (listed : n.ListedAt keys m) :
      Part registered n (record (m.schema registered))
  | listing {m : Node} {keys : List String} (listed : n.ListedAt keys m)
      (shows : m.facets.showsProperties = true) : Part registered n (record (m.listing registered))
  | bare {v : Value} (bare : v.Bare) : Part registered n v

namespace Node

/-- What stands in a part of a schema is a part of it. -/
theorem Part.inner {n : Node} {v child : Value} (part : n.Part registered v)
    (inner : v.Inner child) : n.Part registered child := by
  cases part with
  | schema listed =>
      rcases inner_schema inner with ⟨shows, name, slot, declared, rfl⟩ | ⟨shows, rfl⟩ | bare
      · exact .schema (listed.property shows declared)
      · exact .listing listed shows
      · exact .bare bare
  | listing listed shows =>
      rcases inner_listing shows inner with ⟨name, slot, declared, rfl⟩
      exact .schema (listed.property shows declared)
  | bare bare => exact absurd inner bare.not_inner

/-- All that stands in the schema of a node as a schema is a part of it. -/
theorem part_of_subschema {n : Node} {v : Value}
    (stands : Subschema (record (n.schema registered)) v) : n.Part registered v :=
  stands.of_inner (.schema .here) fun _ _ part inner => part.inner inner

/-- A part of a schema that lists something is what lists the properties of a node. -/
theorem Part.listing_of_holds {n : Node} {part : Value} (inside : n.Part registered part)
    {key : String} {v : Value} (lists : key ∈ listingNames) (held : part.Holds (.str key) v) :
    ∃ m keys, n.ListedAt keys m ∧ m.facets.showsProperties = true ∧
      part = record (m.listing registered) := by
  cases inside with
  | @schema m keys listed =>
      have shape := shape_of_holds lists held
      exact ⟨m, keys, listed, shows_of_plain shape, by rw [schema_eq_listing shape]⟩
  | @listing m keys listed shows => exact ⟨m, keys, listed, shows, rfl⟩
  | bare bare =>
      rcases bare with ⟨entries, rfl, keys⟩
      have apart : listingNames.Disjoint ["$ref", "type", "nullable"] := by simp [listingNames]
      exact absurd (keys (List.mem_map_of_mem (holds_record_iff.mp held))) (apart lists)

/-- In the schema of a node all properties of the nodes that it shows are listed, in the order of
declaration, with the names of those that have to be given: each time the schema of a node is
listed, it is not empty, and if it shows properties, they are listed there.  Nothing else in the
schema lists anything. -/
theorem properties_listed {n : Node} (distinct : n.Distinct) {schema : Mapping}
    (compiled : n.schema? registered = .ok schema) :
    schema ≠ [] ∧
      (∀ keys m, n.ListedAt keys m →
        (record schema).descend? keys = some (record (m.schema registered)) ∧
          m.schema registered ≠ [] ∧
          (m.facets.showsProperties = true →
            ∃ part, (record schema).descend? (keys ++ m.listingKeys) = some part ∧
              part.Lists registered m)) ∧
      ∀ part key v, Subschema (record schema) part → key ∈ listingNames → part.Holds (.str key) v →
        ∃ keys m, n.ListedAt keys m ∧ m.facets.showsProperties = true ∧
          (record schema).descend? (keys ++ m.listingKeys) = some part ∧
          part.Lists registered m := by
  rcases schema?_eq_ok_iff.mp compiled with ⟨-, rfl⟩
  refine ⟨schema_ne_nil registered n, ?_, ?_⟩
  · intro keys m listed
    refine ⟨listed.descend?_schema distinct, schema_ne_nil registered m, fun shows => ?_⟩
    exact ⟨_, listed.descend?_listing distinct shows,
      lists_listing shows (listed.distinct distinct).names⟩
  · intro part key v stands lists held
    rcases (part_of_subschema stands).listing_of_holds lists held with
      ⟨m, keys, listed, shows, rfl⟩
    exact ⟨keys, m, listed, shows, listed.descend?_listing distinct shows,
      lists_listing shows (listed.distinct distinct).names⟩

/-- Shelves: objects with a label and a size, of which the label has to be given. -/
def shelfList : Node :=
  .mk { Facets.blank with type := .named "array", element := "object" }
    [("label", ⟨true, .mk { Facets.blank with type := .named "string" } []⟩),
      ("size", ⟨false, .mk { Facets.blank with type := .named "number" } []⟩)]

/-- A library: an object with a name and with shelves. -/
def library : Node :=
  .mk { Facets.blank with type := .named "object" }
    [("name", ⟨false, .mk { Facets.blank with type := .named "string" } []⟩),
      ("shelves", ⟨true, shelfList⟩)]

/-- In the schema of a library the properties of a shelf are listed in the items of the shelves, and
the label has to be given. -/
theorem properties_listed_library :
    library.Distinct ∧ library.ListedAt ["properties", "shelves"] shelfList ∧
      ∃ schema part, library.schema? (fun _ => false) = .ok schema ∧
        (record schema).descend? ["properties", "shelves", "items"] = some part ∧
        part.descend? ["properties"] =
          some (record (shelfList.propertySchemas fun _ => false)) ∧
        part.descend? ["required"] = some (.list [.str "label"]) := by
  have distinct : library.Distinct := by simp [library, shelfList]
  have compiled : library.schema? (fun _ => false) = .ok (library.schema fun _ => false) := rfl
  have shelves : library.ListedAt ["properties", "shelves"] shelfList :=
    @ListedAt.property library library [] "shelves" ⟨true, shelfList⟩ .here rfl
      (List.mem_cons_of_mem _ List.mem_cons_self)
  rcases (properties_listed distinct compiled).2.1 _ _ shelves with ⟨-, -, shown⟩
  rcases shown rfl with ⟨part, found, lists⟩
  exact ⟨distinct, shelves, _, part, compiled, found, lists.properties, lists.required⟩

end Node

end ApiContract
