import ApiContract.Proofs.Document.Compilation
import ApiContract.Proofs.Document.Linked
import ApiContract.Proofs.Document.Reference
import ApiContract.Proofs.Document.Required
import ApiContract.Proofs.Lint.Report
import ApiContract.Proofs.Storage.Derived

/-!
# Documents of derived components

A registry in which nothing but derivations stands is well formed, if the resources
of associations are named.  Its document can be compiled exactly if the keys can be
displayed that are in the allowed values of columns.  The schemas of the components
are those of objects: associations are arrays that refer to components where there
are such, and columns are scalars or objects, or arrays of scalars.
-/

namespace ApiContract

open Value (record)

/-! ### Facets of derived properties -/

namespace ColumnKind

theorem text_ne_empty (kind : ColumnKind) : kind.text ≠ "" := by
  cases kind <;> decide

end ColumnKind

namespace Column

variable {c : Column} {f : Facets}

/-- A column is an array in a schema if it is one in the storage, unless it holds objects. -/
def IsArray (c : Column) (kind : ColumnKind) : Prop :=
  c.array = true ∧ kind ≠ .object

/-- The facets of an array of what a column holds. -/
def arrayFacets (c : Column) (kind : ColumnKind) : Facets :=
  ⟨.named "array", some kind.text, c.comment, none, none, c.allowable, c.nullable, none⟩

/-- The facets of what a column holds. -/
def plainFacets (c : Column) (kind : ColumnKind) : Facets :=
  ⟨.named kind.text, none, c.comment, none, none, c.allowable, c.nullable, none⟩

/-- The property that a column becomes is an array of what the column holds, or is what the column
holds. -/
theorem facets_cases (known : c.facets = .ok f) :
    ∃ kind, SqlType.kind c.sqlType = .ok kind ∧
      (c.IsArray kind ∧ f = c.arrayFacets kind ∨ ¬c.IsArray kind ∧ f = c.plainFacets kind) := by
  obtain ⟨kind, kindEq, rfl⟩ := Attempt.map_eq_ok_iff.mp known
  refine ⟨kind, kindEq, ?_⟩
  by_cases array : c.IsArray kind
  · have types : c.types kind = ("array", some kind.text) := by
      simp [Column.types, array.1, array.2]
    exact Or.inl ⟨array, by rw [types, arrayFacets]⟩
  · have types : c.types kind = (kind.text, none) := by
      rw [Column.types, if_neg]
      simpa [IsArray] using array
    exact Or.inr ⟨array, by rw [types, plainFacets]⟩

theorem shape_arrayFacets (c : Column) (kind : ColumnKind) :
    (c.arrayFacets kind).shape = .array := by
  simp [arrayFacets, Facets.shape, Shape.of, Shape.refers, Shape.isNamed, Shape.ofType]

theorem shape_plainFacets (c : Column) (kind : ColumnKind) :
    (c.plainFacets kind).shape = .object ∨ (c.plainFacets kind).shape = .scalar := by
  cases kind <;>
    simp [plainFacets, Facets.shape, Shape.of, Shape.refers, Shape.isNamed, Shape.ofType,
      ColumnKind.text]

end Column

theorem Association.shape_facets (a : Association) : a.facets.shape = .array := by
  simp [Association.facets, Facets.blank, Facets.shape, Shape.of, Shape.refers, Shape.isNamed,
    Shape.ofType]

/-- What an attribute becomes is well formed, if the resource of an association is named. -/
theorem Storage.Becomes.wellFormed {s : Storage} {attr : String} {f : Facets}
    (becomes : s.Becomes attr f)
    (named : ∀ a, s.associations.get? attr = some a → a.resource ≠ "") (known : String → Prop) :
    f.WellFormed known := by
  cases becomes with
  | @association a found =>
      have shape := a.shape_facets
      exact ⟨fun _ => ⟨_, rfl, named _ found⟩, fun other => by simp [shape] at other⟩
  | @column c _ _ _ facets =>
      obtain ⟨kind, -, ⟨-, rfl⟩ | ⟨-, rfl⟩⟩ := Column.facets_cases facets
      · have shape := c.shape_arrayFacets kind
        exact ⟨fun _ => ⟨_, rfl, kind.text_ne_empty⟩, fun other => by simp [shape] at other⟩
      · constructor <;> intro other <;>
          rcases c.shape_plainFacets kind with shape | shape <;> simp [shape] at other

/-- No attribute becomes a union. -/
theorem Storage.Becomes.shape_ne_union {s : Storage} {attr : String} {f : Facets}
    (becomes : s.Becomes attr f) : f.shape ≠ .union := by
  cases becomes with
  | @association a _ => simp [a.shape_facets]
  | @column c _ _ _ facets =>
      obtain ⟨kind, -, ⟨-, rfl⟩ | ⟨-, rfl⟩⟩ := Column.facets_cases facets
      · simp [c.shape_arrayFacets]
      · rcases c.shape_plainFacets kind with shape | shape <;> simp [shape]

/-! ### Schemas of derived properties -/

section

variable (registered : String → Bool)

/-- The items of an array: a component, or a type. -/
def itemsOf (element : String) : Mapping :=
  if registered element then refTo element else [("type", .str element)]

theorem Association.schema_facets (a : Association) :
    a.facets.schema registered [] =
      [("type", .str "array"), ("description", .str ""),
        ("items", record (itemsOf registered a.resource))] := by
  rw [Facets.schema, a.shape_facets]
  simp [Association.facets, Facets.blank, Facets.items, Facets.nullableMark, itemsOf,
    TypeExpr.toValue]

theorem Column.schema_arrayFacets (c : Column) (kind : ColumnKind) :
    (c.arrayFacets kind).schema registered [] =
      [("type", .str "array"), ("description", .str c.comment),
        ("items", record (itemsOf registered kind.text ++ (c.arrayFacets kind).nullableMark))] := by
  rw [Facets.schema, c.shape_arrayFacets]
  simp [Column.arrayFacets, Facets.items, itemsOf, TypeExpr.toValue]

theorem Column.schema_plainFacets (c : Column) (kind : ColumnKind) :
    (c.plainFacets kind).schema registered [] =
      ("type", .str kind.text) :: ("description", .str c.comment) ::
        (c.plainFacets kind).valueMarks := by
  rcases c.shape_plainFacets kind with shape | shape
  · rw [Facets.schema, shape]
    exact List.append_nil _
  · rw [Facets.schema, shape]
    exact List.append_nil _

end

/-- The items of an array show themselves. -/
theorem withTextKeys?_itemsOf (registered : String → Bool) (element : String) (f : Facets) :
    (record (itemsOf registered element ++ f.nullableMark)).withTextKeys? =
      some (record (itemsOf registered element ++ f.nullableMark)) := by
  rw [itemsOf, Facets.nullableMark]
  split <;> split <;> rfl

/-- An array is shown with its items. -/
theorem descend?_array {items : Mapping} {description : String}
    (shown : (record items).withTextKeys? = some (record items)) {u : Value}
    (converted : (record [("type", .str "array"), ("description", .str description),
      ("items", record items)]).withTextKeys? = some u) :
    u.descend? ["type"] = some (.str "array") ∧
      ∀ keys, u.descend? ("items" :: keys) = (record items).descend? keys := by
  obtain ⟨type, typeEq, typeAt⟩ := Value.descend?_withTextKeys? (by simp) converted "type" rfl
  obtain ⟨_, itemsEq, itemsAt⟩ := Value.descend?_withTextKeys? (by simp) converted "items" rfl
  cases typeEq
  cases shown.symm.trans itemsEq
  exact ⟨by rw [typeAt, Value.descend?_nil], itemsAt⟩

/-- A column that is no array is shown with the type of what it holds. -/
theorem Column.descend?_plainFacets (c : Column) (kind : ColumnKind) {registered : String → Bool}
    {u : Value}
    (converted : (record ((c.plainFacets kind).schema registered [])).withTextKeys? = some u) :
    u.descend? ["type"] = some (.str kind.text) := by
  have distinct : ((c.plainFacets kind).schema registered []).keys.Nodup := by
    rw [c.schema_plainFacets, Facets.valueMarks, Facets.nullableMark]
    cases (c.plainFacets kind).allowed <;> cases (c.plainFacets kind).nullable <;> simp
  have found : ((c.plainFacets kind).schema registered []).get? "type" = some (.str kind.text) := by
    rw [c.schema_plainFacets, Entries.get?_cons, if_pos (by decide)]
  obtain ⟨type, typeEq, typeAt⟩ := Value.descend?_withTextKeys? distinct converted "type" found
  cases typeEq
  rw [typeAt, Value.descend?_nil]

/-- The keys in the schema of what an attribute becomes can be displayed exactly if those in its
allowed values can, unless it is an array, which shows none of them. -/
theorem Storage.Becomes.keysShown_schema_iff {s : Storage} {attr : String} {f : Facets}
    (becomes : s.Becomes attr f) (registered : String → Bool) :
    (record (f.schema registered [])).KeysShown ↔
      (f.shape ≠ .array → ∀ values, f.allowed = some values → ∀ v ∈ values, v.KeysShown) := by
  have items (element : String) (g : Facets) :
      (record (itemsOf registered element ++ g.nullableMark)).KeysShown := by
    apply Value.isSome_withTextKeys?_iff.mp
    rw [withTextKeys?_itemsOf]
    rfl
  cases becomes with
  | @association a found =>
      have shown : (record (itemsOf registered a.resource ++ [])).KeysShown :=
        items a.resource a.facets
      rw [List.append_nil] at shown
      rw [a.schema_facets, Value.keysShown_record_iff]
      simp [shown, a.shape_facets]
  | @column c _ _ _ facets =>
      obtain ⟨kind, -, ⟨-, rfl⟩ | ⟨-, rfl⟩⟩ := Column.facets_cases facets
      · rw [c.schema_arrayFacets, Value.keysShown_record_iff]
        simp [items, c.shape_arrayFacets]
      · have noArray : (c.plainFacets kind).shape ≠ .array := by
          rcases c.shape_plainFacets kind with shape | shape <;> simp [shape]
        rw [c.schema_plainFacets, Value.keysShown_record_iff, Facets.valueMarks,
          Facets.nullableMark]
        cases (c.plainFacets kind).allowed <;> cases (c.plainFacets kind).nullable <;>
          simp [noArray]

/-- The schema of a node without properties. -/
theorem schema_leaf (registered : String → Bool) (f : Facets) :
    (Node.mk f []).schema registered = f.schema registered [] := by
  rw [Node.schema]
  split <;> rfl

/-! ### Schemas of derived components -/

section

variable {registered : String → Bool} {n : Node}

/-- The schema of an object of which nothing but properties is declared. -/
theorem schema_object (object : n.facets = Derivation.object.facets) :
    n.schema registered = ("type", .str "object") :: ("description", .str "") ::
      propertiesBlock (requiredNames n.properties) (Node.schemas registered n.properties) := by
  cases n with
  | mk facets properties =>
      obtain rfl : facets = Derivation.object.facets := object
      rfl

theorem nodup_keys_schema_object (object : n.facets = Derivation.object.facets) :
    (n.schema registered).keys.Nodup := by
  rw [schema_object object, propertiesBlock_eq Node.ne_nil_of_mem_schemas, requiredEntry,
    propertiesEntry]
  split <;> split <;> simp

/-- Such an object is shown as one. -/
theorem descend?_type_object (object : n.facets = Derivation.object.facets) {w : Value}
    (converted : (record (n.schema registered)).withTextKeys? = some w) :
    w.descend? ["type"] = some (.str "object") := by
  have found : (n.schema registered).get? "type" = some (.str "object") := by
    rw [schema_object object]
    rfl
  obtain ⟨type, typeEq, typeAt⟩ :=
    Value.descend?_withTextKeys? (nodup_keys_schema_object object) converted "type" found
  cases typeEq
  rw [typeAt, Value.descend?_nil]

/-- What stands in the schema under the key of the properties. -/
theorem get?_properties_object (registered : String → Bool)
    (object : n.facets = Derivation.object.facets) :
    (n.schema registered).get? "properties" =
      if Node.schemas registered n.properties = [] then none
      else some (record (Entries.mapValues record (Node.schemas registered n.properties))) := by
  have shape : n.shape = .object := congrArg Facets.shape object
  rw [Node.get?_schema (.inl shape) (.inr rfl),
    get?_properties_propertiesBlock Node.ne_nil_of_mem_schemas]

theorem get?_record_schemas (registered : String → Bool) (n : Node) (attr : String) :
    (Entries.mapValues record (Node.schemas registered n.properties)).get? attr =
      (n.properties.get? attr).map fun slot => record (slot.content.schema registered) := by
  rw [Entries.get?_mapValues, Node.get?_schemas, Option.map_map]
  rfl

theorem nodup_keys_schemas (distinct : n.Distinct) :
    (Entries.mapValues record (Node.schemas registered n.properties)).keys.Nodup := by
  rw [Entries.keys_mapValues, Node.schemas_eq_mapValues, Entries.keys_mapValues]
  exact distinct.names

variable (object : n.facets = Derivation.object.facets) (distinct : n.Distinct) {w : Value}
  (converted : (record (n.schema registered)).withTextKeys? = some w) {attr : String}

include object distinct converted

/-- The properties are shown by name. -/
theorem descend?_property_object {slot : Slot Node} (found : n.properties.get? attr = some slot) :
    ∃ u, (record (slot.content.schema registered)).withTextKeys? = some u ∧
      ∀ keys, w.descend? ("properties" :: attr :: keys) = u.descend? keys := by
  have here := get?_record_schemas registered n attr
  rw [found, Option.map_some] at here
  have some : Node.schemas registered n.properties ≠ [] := by
    intro none
    simp [none, Entries.mapValues] at here
  have properties := get?_properties_object registered object
  rw [if_neg some] at properties
  obtain ⟨shown, shownEq, shownAt⟩ :=
    Value.descend?_withTextKeys? (nodup_keys_schema_object object) converted _ properties
  obtain ⟨u, uEq, uAt⟩ :=
    Value.descend?_withTextKeys? (nodup_keys_schemas distinct) shownEq attr here
  exact ⟨u, uEq, fun keys => by rw [shownAt, uAt]⟩

/-- No other properties are shown. -/
theorem descend?_property_object_eq_none (absent : n.properties.get? attr = none) :
    w.descend? ["properties", attr] = none := by
  have properties := get?_properties_object registered object
  split at properties
  · exact Value.descend?_eq_none_of_withTextKeys? (nodup_keys_schema_object object) converted
      properties _
  · obtain ⟨shown, shownEq, shownAt⟩ :=
      Value.descend?_withTextKeys? (nodup_keys_schema_object object) converted _ properties
    have nowhere := get?_record_schemas registered n attr
    rw [absent, Option.map_none] at nowhere
    rw [shownAt]
    exact Value.descend?_eq_none_of_withTextKeys? (nodup_keys_schemas distinct) shownEq nowhere _

end

/-! ### What is shown of a derivation -/

namespace Derivation

/-- A schema shows what is derived: an object, with an array for every association and what the
column holds, or an array of it, for every column, and with no other properties.  The items of an
association refer to its resource if that is a component, and otherwise have it as their type. -/
structure ShownIn (registered : String → Bool) (d : Derivation) (schema : Value) : Prop where
  object : schema.descend? ["type"] = some (.str "object")
  association : ∀ attr a, .str attr ∈ d.attributes → d.storage.associations.get? attr = some a →
    schema.descend? ["properties", attr, "type"] = some (.str "array") ∧
    schema.descend? ["properties", attr, "items"] =
      some (record (if registered a.resource then refTo a.resource
        else [("type", .str a.resource)]))
  column : ∀ attr c, .str attr ∈ d.attributes → d.storage.associations.get? attr = none →
    d.storage.columns.get? attr = some c → ∃ kind, SqlType.kind c.sqlType = .ok kind ∧
      (c.IsArray kind ∧ schema.descend? ["properties", attr, "type"] = some (.str "array") ∧
          schema.descend? ["properties", attr, "items", "type"] = some (.str kind.text) ∨
        ¬c.IsArray kind ∧
          schema.descend? ["properties", attr, "type"] = some (.str kind.text))
  others : ∀ attr, schema.descend? ["properties", attr] ≠ none → .str attr ∈ d.attributes ∧
    (d.storage.associations.get? attr ≠ none ∨ d.storage.columns.get? attr ≠ none)

/-- The keys can be displayed in all allowed values of columns that become properties other than
arrays. -/
def KeysShown (d : Derivation) : Prop :=
  ∀ attr f, .str attr ∈ d.attributes → d.storage.Becomes attr f → f.shape ≠ .array →
    ∀ values, f.allowed = some values → ∀ v ∈ values, v.KeysShown

namespace Gives

variable {d : Derivation} {c : Component} (gives : d.Gives c)

include gives

/-- The properties of a derived component are what the attributes become. -/
theorem get?_properties_iff {attr : String} {slot : Slot Node} :
    c.node.properties.get? attr = some slot ↔
      .str attr ∈ d.attributes ∧ ∃ f, d.storage.Becomes attr f ∧ slot = ⟨true, .mk f []⟩ := by
  rw [gives.derives.found]
  simp [Storage.Adds, object, Node.properties]

/-- A derived component is well formed, if the resources of its associations are named. -/
theorem wellFormed
    (named : ∀ attr a, d.storage.associations.get? attr = some a → a.resource ≠ "")
    (known : String → Prop) : c.node.WellFormed known := by
  refine Node.forall_contains_iff.mpr ⟨?_, ?_⟩
  · have shape : c.node.facets.shape = .object := congrArg Facets.shape gives.facets
    constructor <;> intro other <;> simp [shape] at other
  · intro attr slot member
    have found := (Entries.get?_eq_some_iff gives.distinct.names).mpr member
    obtain ⟨-, f, becomes, rfl⟩ := gives.get?_properties_iff.mp found
    exact Node.forall_contains_iff.mpr
      ⟨becomes.wellFormed (named attr) known, fun _ _ inner => absurd inner List.not_mem_nil⟩

/-- A derived component is shown as what is derived, unless the name of a component is that of
something that columns hold. -/
theorem shownIn {registered : String → Bool}
    (apart : ∀ kind : ColumnKind, registered kind.text = false) {w : Value}
    (converted : (record (c.node.schema registered)).withTextKeys? = some w) :
    d.ShownIn registered w := by
  have property {attr : String} {f : Facets} (listed : .str attr ∈ d.attributes)
      (becomes : d.storage.Becomes attr f) :
      ∃ u, (record (f.schema registered [])).withTextKeys? = some u ∧
        ∀ keys, w.descend? ("properties" :: attr :: keys) = u.descend? keys := by
    have found := gives.get?_properties_iff.mpr ⟨listed, f, becomes, rfl⟩
    have shown := descend?_property_object gives.facets gives.distinct converted found
    rwa [schema_leaf] at shown
  constructor
  · exact descend?_type_object gives.facets converted
  · intro attr a listed found
    obtain ⟨u, uEq, uAt⟩ := property listed (.association found)
    rw [a.schema_facets] at uEq
    have items : (record (itemsOf registered a.resource)).withTextKeys? =
        some (record (itemsOf registered a.resource)) := by
      rw [itemsOf]
      split <;> rfl
    obtain ⟨type, itemsAt⟩ := descend?_array items uEq
    rw [uAt, uAt, itemsAt, Value.descend?_nil]
    exact ⟨type, rfl⟩
  · intro attr column listed alone found
    obtain ⟨f, known⟩ := gives.derives.known attr column listed rfl alone found
    obtain ⟨u, uEq, uAt⟩ := property listed (.column alone found known)
    obtain ⟨kind, kindEq, ⟨array, rfl⟩ | ⟨plain, rfl⟩⟩ := Column.facets_cases known
    · rw [column.schema_arrayFacets] at uEq
      obtain ⟨type, itemsAt⟩ := descend?_array (withTextKeys?_itemsOf _ _ _) uEq
      refine ⟨kind, kindEq, Or.inl ⟨array, ?_, ?_⟩⟩
      · rw [uAt, type]
      · rw [uAt, itemsAt, itemsOf, apart kind]
        rfl
    · refine ⟨kind, kindEq, Or.inr ⟨plain, ?_⟩⟩
      rw [uAt, column.descend?_plainFacets kind uEq]
  · intro attr shown
    cases found : c.node.properties.get? attr with
    | none =>
        have absent :=
          descend?_property_object_eq_none gives.facets gives.distinct converted found
        exact absurd absent shown
    | some slot =>
        obtain ⟨listed, f, becomes, -⟩ := gives.get?_properties_iff.mp found
        refine ⟨listed, ?_⟩
        cases becomes with
        | association association => simp [association]
        | column _ column _ => simp [column]

/-- The keys in the schema of a derived component can be displayed exactly if those can that it
shows of the allowed values of columns. -/
theorem keysShown_schema_iff (registered : String → Bool) :
    (record (c.node.schema registered)).KeysShown ↔ d.KeysShown := by
  have block : (record (c.node.schema registered)).KeysShown ↔
      ∀ p ∈ c.node.properties, (record (p.2.content.schema registered)).KeysShown := by
    have properties : (record (Entries.mapValues record
        (Node.schemas registered c.node.properties))).KeysShown ↔
        ∀ p ∈ c.node.properties, (record (p.2.content.schema registered)).KeysShown := by
      rw [Value.keysShown_record_iff, Node.schemas_eq_mapValues, Entries.mapValues,
        Entries.mapValues, List.forall_mem_map, List.forall_mem_map]
    rw [← properties, schema_object gives.facets, propertiesBlock_eq Node.ne_nil_of_mem_schemas,
      requiredEntry, propertiesEntry, Value.keysShown_record_iff]
    by_cases none : Node.schemas registered c.node.properties = []
    · split <;> simp [none, Entries.mapValues]
    · split <;> simp
  rw [block]
  constructor
  · intro shown attr f listed becomes
    have found := gives.get?_properties_iff.mpr ⟨listed, f, becomes, rfl⟩
    have here := shown _ (Entries.mem_of_get? found)
    rw [schema_leaf] at here
    exact (becomes.keysShown_schema_iff registered).mp here
  · rintro shown ⟨attr, slot⟩ member
    have found := (Entries.get?_eq_some_iff gives.distinct.names).mpr member
    obtain ⟨listed, f, becomes, rfl⟩ := gives.get?_properties_iff.mp found
    rw [schema_leaf]
    exact (becomes.keysShown_schema_iff registered).mpr (shown attr f listed becomes)

/-- A derived component can be compiled. -/
theorem compilable : c.node.compilable = true := by
  have shape : c.node.facets.shape = .object := congrArg Facets.shape gives.facets
  have below : Node.compilableAll c.node.properties = true := by
    apply Node.compilableAll_iff.mpr
    intro attr slot member
    have found := (Entries.get?_eq_some_iff gives.distinct.names).mpr member
    obtain ⟨-, f, becomes, rfl⟩ := gives.get?_properties_iff.mp found
    simp [Node.compilable, Node.compilableAll, becomes.shape_ne_union]
  rw [← c.node.mk_facets_properties, Node.compilable, below, shape]
  simp

end Gives

end Derivation

/-! ### Registries of derived components -/

namespace Registry

/-- A registry of components only, which have different names and can be compiled, has a document
exactly if the keys in their schemas can be displayed. -/
theorem exists_document_iff {r : Registry} (alone : r.endpoints = []) (distinct : r.names.Nodup)
    (compilable : ∀ c ∈ r.components, c.node.compilable = true) (info : DocumentInfo) :
    (∃ document, r.document info = .ok document) ↔
      ∀ c ∈ r.components, (record (c.node.schema r.has)).KeysShown := by
  have paths : r.paths = .ok [] := by
    rw [Registry.paths, alone, enterEndpoints]
  have schemas := schemas_eq distinct
  rw [if_pos (List.all_eq_true.mpr compilable)] at schemas
  have whole : (∃ document, r.document info = .ok document) ↔
      (record (sections info [] (r.components.map fun c => (c.name, c.node.schema r.has)))
        ).withTextKeys?.isSome = true := by
    rw [Option.isSome_iff_exists]
    apply exists_congr
    intro document
    rw [document_eq_ok_iff, paths, schemas]
    simp
  have shown : (schemasValue (r.components.map fun c => (c.name, c.node.schema r.has))).KeysShown ↔
      ∀ c ∈ r.components, (record (c.node.schema r.has)).KeysShown := by
    rw [schemasValue, Value.keysShown_record_iff, Entries.mapValues, List.forall_mem_map,
      List.forall_mem_map]
  rw [whole, Value.isSome_withTextKeys?_iff, ← shown]
  simp [sections, pathsValue, Entries.mapValues, DocumentInfo.toMapping]

/-- If derivations on an empty registry all answer, with different names, none of which is that of
something that columns hold, and with named resources, then nothing is malformed, and compiling
in strict mode gives a document exactly if the keys can be displayed in the allowed values that
are shown of columns.  The document shows every component as what is derived. -/
theorem compile_derived {derivations : List Derivation} {r : Registry}
    (accepted : Registry.empty.Accepts (derivations.map Derivation.call) r)
    (distinct : (derivations.map (·.name.shown)).Nodup)
    (apart : ∀ d ∈ derivations, ∀ kind : ColumnKind, d.name.shown ≠ .ok kind.text)
    (strings : ∀ d ∈ derivations, ∀ a ∈ d.attributes, a.isString = true)
    (named : ∀ d ∈ derivations, ∀ attr a, d.storage.associations.get? attr = some a →
      a.resource ≠ "") (info : DocumentInfo) :
    (∀ name, r.has name = true ↔ ∃ d ∈ derivations, d.name.shown = .ok name) ∧
      r.problems = .ok [] ∧
      ((∃ document, (r.compile info true).result = .ok document) ↔
        ∀ d ∈ derivations, d.KeysShown) ∧
      ∀ document, (r.compile info true).result = .ok document → ∀ d ∈ derivations,
        ∃ name schema, d.name.shown = .ok name ∧
          document.descend? ["components", "schemas", name] = some schema ∧
          d.ShownIn r.has schema := by
  obtain ⟨components, pairs, made⟩ := Derivation.exists_of_accepts strings accepted
  obtain rfl : r.components = components := by rw [made]; rfl
  have alone : r.endpoints = [] := by rw [made]; rfl
  have distinctNames : r.names.Nodup := by
    rw [Derivation.names_of_gives pairs] at distinct
    exact distinct.of_map _
  have has (name : String) : r.has name = true ↔ ∃ d ∈ derivations, d.name.shown = .ok name := by
    rw [has_eq_true_iff, Registry.names, List.mem_map]
    constructor
    · rintro ⟨c, listed, rfl⟩
      obtain ⟨d, member, gives⟩ := Attempt.exists_of_mem_right pairs listed
      exact ⟨d, member, gives.name⟩
    · rintro ⟨d, member, shown⟩
      obtain ⟨c, listed, gives⟩ := Attempt.exists_of_mem_left pairs member
      exact ⟨c, listed, Except.ok.inj (gives.name.symm.trans shown)⟩
  have unnamed (kind : ColumnKind) : r.has kind.text = false := by
    rw [← Bool.not_eq_true, has]
    rintro ⟨d, member, shown⟩
    exact apart d member kind shown
  have clean : r.problems = .ok [] := by
    refine problems_eq_ok_nil_iff.mpr ⟨distinctNames, ?_, by simp [alone]⟩
    intro c member
    obtain ⟨d, listed, gives⟩ := Attempt.exists_of_mem_right pairs member
    exact gives.wellFormed (named d listed) _
  have compiled : (r.compile info true).result = r.document info := by
    rw [result_compile clean]
    rfl
  refine ⟨has, clean, ?_, ?_⟩
  · have compilable : ∀ c ∈ r.components, c.node.compilable = true := by
      intro c listed
      obtain ⟨d, -, gives⟩ := Attempt.exists_of_mem_right pairs listed
      exact gives.compilable
    rw [compiled, exists_document_iff alone distinctNames compilable]
    constructor
    · intro shown d member
      obtain ⟨c, listed, gives⟩ := Attempt.exists_of_mem_left pairs member
      exact (gives.keysShown_schema_iff r.has).mp (shown c listed)
    · intro shown c listed
      obtain ⟨d, member, gives⟩ := Attempt.exists_of_mem_right pairs listed
      exact (gives.keysShown_schema_iff r.has).mpr (shown d member)
  · intro document documentEq d member
    rw [compiled, document_eq_ok_iff] at documentEq
    obtain ⟨paths, schemas, -, schemasEq, converted⟩ := documentEq
    obtain ⟨c, listed, gives⟩ := Attempt.exists_of_mem_left pairs member
    obtain ⟨m, w, mEq, wEq, found⟩ := descend?_component distinctNames schemasEq converted listed
    obtain ⟨-, rfl⟩ := Node.schema?_eq_ok_iff.mp mEq
    exact ⟨c.name, w, gives.name, found, gives.shownIn unnamed wEq⟩

/-- A user, with posts that are derived as well, tags that are not, and some columns. -/
def userDerivation : Derivation where
  name := .str "User"
  attributes := [.str "id", .str "labels", .str "posts", .str "tags", .str "computed"]
  storage :=
    ⟨[("id", ⟨"bigint", false, false, "", none⟩), ("labels", ⟨"Text", true, true, "", none⟩),
        ("posts", ⟨"jsonb", false, true, "", none⟩)],
      [("posts", ⟨"Post"⟩), ("tags", ⟨"Tag"⟩)]⟩

/-- A post, of which only the state is known. -/
def postDerivation : Derivation where
  name := .str "Post"
  attributes := [.str "state"]
  storage := ⟨[("state", ⟨"varchar(9)", false, true, "", some [.str "draft", .str "sent"]⟩)], []⟩

/-- A user refers to posts, though these are derived later and there is a column of their name. -/
theorem compile_derived_users :
    ∃ r document schema,
      Registry.empty.Accepts ([userDerivation, postDerivation].map Derivation.call) r ∧
      r.problems = .ok [] ∧ (r.compile .standard true).result = .ok document ∧
      document.descend? ["components", "schemas", "User"] = some schema ∧
      schema.descend? ["properties", "posts", "items"] = some (record (refTo "Post")) ∧
      schema.descend? ["properties", "tags", "items"] = some (record [("type", .str "Tag")]) ∧
      schema.descend? ["properties", "labels", "items", "type"] = some (.str "string") ∧
      schema.descend? ["properties", "id", "type"] = some (.str "number") := by
  obtain ⟨_, first⟩ := Attempt.failure?_eq_none_iff.mp
    (by decide +kernel :
      Attempt.failure? (Registry.empty.call userDerivation.call).answer = none)
  obtain ⟨_, second⟩ := Attempt.failure?_eq_none_iff.mp
    (by decide +kernel :
      Attempt.failure? ((Registry.empty.call userDerivation.call).registry.call
        postDerivation.call).answer = none)
  have accepted : Registry.empty.Accepts ([userDerivation, postDerivation].map Derivation.call) _ :=
    .cons first (.cons second (.nil _))
  have strings : ∀ d ∈ [userDerivation, postDerivation], ∀ a ∈ d.attributes,
      a.isString = true := by
    simp [userDerivation, postDerivation, Value.isString]
  have named : ∀ d ∈ [userDerivation, postDerivation], ∀ attr a,
      d.storage.associations.get? attr = some a → a.resource ≠ "" := by
    intro d member attr a found
    have listed := Entries.mem_of_get? found
    rcases List.mem_cons.mp member with rfl | member
    · rcases List.mem_cons.mp listed with posts | listed
      · cases posts
        decide
      · cases List.mem_singleton.mp listed
        decide
    · cases List.mem_singleton.mp member
      exact absurd listed List.not_mem_nil
  have apart : ∀ d ∈ [userDerivation, postDerivation], ∀ kind : ColumnKind,
      d.name.shown ≠ .ok kind.text := by
    intro d member kind
    rcases List.mem_cons.mp member with rfl | member
    · cases kind <;> decide
    · cases List.mem_singleton.mp member
      cases kind <;> decide
  obtain ⟨has, clean, -, shown⟩ :=
    compile_derived accepted (by decide) apart strings named .standard
  have compiles : Attempt.failure? (Registry.compile (((Registry.empty.call
      userDerivation.call).registry.call postDerivation.call).registry) .standard true).result =
      none := by
    decide +kernel
  obtain ⟨document, compiled⟩ := Attempt.failure?_eq_none_iff.mp compiles
  obtain ⟨name, schema, nameEq, found, described⟩ :=
    shown document compiled userDerivation List.mem_cons_self
  cases nameEq
  have posts := (described.association "posts" ⟨"Post"⟩ (by decide) rfl).2
  have tags := (described.association "tags" ⟨"Tag"⟩ (by decide) rfl).2
  rw [if_pos ((has "Post").mpr ⟨postDerivation, by simp, rfl⟩)] at posts
  have unnamed : ¬∃ d ∈ [userDerivation, postDerivation], d.name.shown = .ok "Tag" := by
    simp [userDerivation, postDerivation, Value.shown, Value.display?]
  rw [if_neg (mt (has "Tag").mp unnamed)] at tags
  have text : SqlType.kind "Text" = .ok .string := by decide +kernel
  have bigint : SqlType.kind "bigint" = .ok .number := by decide +kernel
  obtain ⟨kind, kindEq, ⟨-, -, labels⟩ | ⟨noArray, -⟩⟩ :=
    described.column "labels" _ (by decide) rfl rfl
  · obtain rfl := Except.ok.inj (text.symm.trans kindEq)
    obtain ⟨kind, kindEq, ⟨array, -, -⟩ | ⟨-, id⟩⟩ := described.column "id" _ (by decide) rfl rfl
    · simp [Column.IsArray] at array
    · obtain rfl := Except.ok.inj (bigint.symm.trans kindEq)
      exact ⟨_, document, schema, accepted, clean, compiled, found, posts, tags, labels, id⟩
  · obtain rfl := Except.ok.inj (text.symm.trans kindEq)
    simp [Column.IsArray] at noArray

/-- A book, whose pages are one of the allowed values of a column, by numbers that cannot be
displayed. -/
def bookDerivation : Derivation where
  name := .str "Book"
  attributes := [.str "page"]
  storage :=
    ⟨[("page", ⟨"json", false, true, "", some [.dict [(.int Number.digitCeiling, .null)]]⟩)], []⟩

/-- What is derived of a book is well formed, and it is not compiled. -/
theorem compile_derived_books :
    ∃ r, Registry.empty.Accepts ([bookDerivation].map Derivation.call) r ∧
      r.names = ["Book"] ∧ bookDerivation.storage.associations = [] ∧ r.problems = .ok [] ∧
      (r.compile .standard true).result = .error (.badValue .tooManyDigits) := by
  obtain ⟨_, answer⟩ := Attempt.failure?_eq_none_iff.mp
    (by decide +kernel :
      Attempt.failure? (Registry.empty.call bookDerivation.call).answer = none)
  have names : (Registry.empty.call bookDerivation.call).registry.names = ["Book"] := by
    decide +kernel
  have clean : (Registry.empty.call bookDerivation.call).registry.problems = .ok [] := by
    decide +kernel
  have failed : Attempt.failure?
      ((Registry.empty.call bookDerivation.call).registry.compile .standard true).result =
      some (.badValue .tooManyDigits) := by
    decide +kernel
  exact ⟨_, .cons answer (.nil _), names, rfl, clean, Attempt.failure?_eq_some_iff.mp failed⟩

end Registry

end ApiContract
