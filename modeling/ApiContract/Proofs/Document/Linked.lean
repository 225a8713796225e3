import ApiContract.Proofs.Document.Displayable
import ApiContract.Proofs.Document.Visible

/-!
# What a schema takes from the components

A schema takes one thing from the components: which element types of arrays are
names of components.  So it does not matter in which order components are
declared, and one more component changes nothing but the items of arrays of its
name.  These showed the name as a type, and refer to the component from then on.

`linked` says this of the schema alone.  It goes through the places of a schema
at which schemas stand, and replaces the type of items by a reference where it
is the name of the component.
-/

namespace ApiContract

open Value (record)

/-! ### Linking items to a component -/

/-- What a part of a schema is: a schema, the items of an array, or schemas by name. -/
inductive SchemaPart where
  | schema | items | schemas
  deriving DecidableEq

/-- The part that stands under a key of a part, if one does. -/
def SchemaPart.under? : SchemaPart → String → Option SchemaPart
  | .schemas, _ => some .schema
  | .schema, key =>
    if key = "properties" then some .schemas else if key = "items" then some .items else none
  | .items, key => if key = "properties" then some .schemas else none

/-- Items of a type are linked to the component of that name; other entries stay. -/
def linkedType (name : String) (part : SchemaPart) (key : String) (v : Value) : String × Value :=
  if part = .items ∧ key = "type" ∧ v = .str name then ("$ref", .str (componentsPath ++ name))
  else (key, v)

namespace Value

mutual

/-- A part of a schema after a component is declared. -/
def linked (name : String) (part : SchemaPart) : Value → Value
  | .dict entries => .dict (linkedEntries name part entries)
  | v => v

/-- The entries of a part of a schema after a component is declared. -/
def linkedEntries (name : String) (part : SchemaPart) : List (Value × Value) → List (Value × Value)
  | [] => []
  | (.str key, v) :: rest =>
    (match part.under? key with
      | some inner => (.str key, linked name inner v)
      | none =>
        let entry := linkedType name part key v
        (.str entry.1, entry.2)) :: linkedEntries name part rest
  | entry :: rest => entry :: linkedEntries name part rest

end

end Value

/-- An entry of a part of a schema after a component is declared. -/
def linkedEntry (name : String) (part : SchemaPart) (e : String × Value) : String × Value :=
  match part.under? e.1 with
  | some inner => (e.1, e.2.linked name inner)
  | none => linkedType name part e.1 e.2

/-- A schema after a component is declared. -/
def linkedSchema (name : String) (schema : Mapping) : Mapping :=
  schema.map (linkedEntry name .schema)

/-- The names that are registered once one more is. -/
def withName (registered : String → Bool) (name : String) : String → Bool :=
  fun other => registered other || other == name

theorem Value.linked_record (name : String) (part : SchemaPart) (m : Mapping) :
    (record m).linked name part = record (m.map (linkedEntry name part)) := by
  rw [record, record, linked, Value.dict.injEq]
  induction m with
  | nil => rfl
  | cons e rest ih =>
      rw [List.map_cons, linkedEntries, ih, List.map_cons, List.map_cons, linkedEntry]
      cases part.under? e.1 <;> rfl

/-! ### The entries of a schema -/

namespace Facets

variable {first second : String → Bool} {f : Facets}

/-- A schema takes from the components whether the element type of an array is one of them. -/
theorem schema_congr (block : Mapping)
    (agree : f.shape = .array → ∀ element, f.element = some element →
      first element = second element) : f.schema first block = f.schema second block := by
  cases shape : f.shape with
  | array =>
      have items : f.items first = f.items second := by
        cases element : f.element with
        | none => rw [Facets.items, Facets.items, element]
        | some name =>
            rw [Facets.items, Facets.items, element]
            simp only [agree shape name element]
      simp only [schema, shape, items]
  | reference | union | object | scalar => simp only [schema, shape]

end Facets

namespace Face

variable {registered : String → Bool} (name : String)

theorem linked_nullableEntry {part : SchemaPart} (apart : part ≠ .schemas) (nullable : Bool) :
    (nullableEntry nullable).toList.map (linkedEntry name part) =
      (nullableEntry nullable).toList := by
  cases nullable <;> cases part <;>
    simp_all [nullableEntry, linkedEntry, SchemaPart.under?, linkedType]

theorem linked_enumEntry (allowed : Option (List Value)) :
    (enumEntry allowed).toList.map (linkedEntry name .schema) = (enumEntry allowed).toList := by
  cases allowed <;> simp [enumEntry, linkedEntry, SchemaPart.under?, linkedType]

theorem linked_typeEntry (type : TypeExpr) :
    (typeEntry type).toList.map (linkedEntry name .schema) = (typeEntry type).toList := by
  cases type <;> simp [typeEntry, linkedEntry, SchemaPart.under?, linkedType]

/-- Items of the name that is registered refer to it, and those of other names stay. -/
theorem linked_elementEntry (element : Option String) :
    (elementEntry registered element).toList.map (linkedEntry name .items) =
      (elementEntry (withName registered name) element).toList := by
  cases element with
  | none => rfl
  | some other =>
      by_cases known : registered other = true <;> by_cases same : other = name <;>
        simp_all [elementEntry, withName, linkedEntry, SchemaPart.under?, linkedType]

/-- The schema with a face shows the component that is declared in its items and in what it shows
of properties, and nowhere else. -/
theorem linked_schema {block more : Mapping}
    (linked : ∀ part, part ≠ .schemas → block.map (linkedEntry name part) = more) (face : Face) :
    linkedSchema name (face.schema registered block) =
      face.schema (withName registered name) more := by
  have marked : ∀ {part : SchemaPart}, part ≠ .schemas → ∀ nullable,
      (marks nullable block).map (linkedEntry name part) = marks nullable more := by
    intro part apart nullable
    rw [marks, List.map_append, linked_nullableEntry name apart, linked part apart]
    rfl
  have bare : ∀ nullable, (marks nullable []).map (linkedEntry name .schema) =
      marks nullable [] := by
    intro nullable
    rw [marks, List.map_append, linked_nullableEntry name (by decide)]
    rfl
  have described : ∀ description,
      linkedEntry name .schema ("description", .str description) =
        ("description", .str description) := fun _ => rfl
  have typed : ∀ v, linkedEntry name .schema ("type", v) = ("type", v) := by
    simp [linkedEntry, SchemaPart.under?, linkedType]
  have items : ∀ m : Mapping, linkedEntry name .schema ("items", record m) =
      ("items", record (m.map (linkedEntry name .items))) := by
    intro m
    rw [← Value.linked_record]
    rfl
  cases face with
  | reference target nullable =>
      rw [linkedSchema, schema, List.map_append, bare]
      rfl
  | references target =>
      rw [linkedSchema, schema, List.map_cons, List.map_cons, typed, items]
      rfl
  | array description nullable element =>
      rw [linkedSchema, schema, List.map_cons, List.map_cons, List.map_cons, typed, described,
        items, List.map_append, linked_elementEntry, marked (by decide)]
      rfl
  | union members description allowed nullable =>
      rw [linkedSchema, schema, values, List.map_cons, List.map_cons, described, List.map_append,
        linked_enumEntry, bare]
      rfl
  | plain type description allowed nullable =>
      rw [linkedSchema, schema, values, List.map_append, linked_typeEntry, List.map_cons, described,
        List.map_append, linked_enumEntry, marked (by decide)]
      rfl

end Face

/-- What a schema shows of properties shows the component in the schemas of the properties. -/
theorem linked_propertiesBlock {name : String} {part : SchemaPart} (apart : part ≠ .schemas)
    {required : List String} {schemas : Entries String Mapping} (shown : ∀ e ∈ schemas, e.2 ≠ []) :
    (propertiesBlock required schemas).map (linkedEntry name part) =
      propertiesBlock required (Entries.mapValues (linkedSchema name) schemas) := by
  have stillShown : ∀ e ∈ Entries.mapValues (linkedSchema name) schemas, e.2 ≠ [] := by
    rw [Entries.mapValues, List.forall_mem_map]
    intro e listed
    simpa [linkedSchema] using shown e listed
  have names : ∀ v, linkedEntry name part ("required", v) = ("required", v) := by
    intro v
    cases part <;> first | exact absurd rfl apart | rfl
  have properties : ∀ m : Mapping, linkedEntry name part ("properties", record m) =
      ("properties", record (m.map (linkedEntry name .schemas))) := by
    intro m
    rw [← Value.linked_record]
    cases part <;> first | exact absurd rfl apart | rfl
  have inside : (Entries.mapValues record schemas).map (linkedEntry name .schemas) =
      Entries.mapValues record (Entries.mapValues (linkedSchema name) schemas) := by
    simp [Entries.mapValues, linkedEntry, SchemaPart.under?, Value.linked_record, linkedSchema]
  rw [propertiesBlock_eq shown, propertiesBlock_eq stillShown, List.map_append]
  congr 1
  · cases required with
    | nil => rfl
    | cons first rest => exact congrArg (· :: []) (names _)
  · cases schemas with
    | nil => rfl
    | cons first rest =>
        have entry := properties (Entries.mapValues record (first :: rest))
        rw [inside] at entry
        exact congrArg (· :: []) entry

namespace Node

variable {registered first second : String → Bool}

/-- The schema of a node takes from the components which element types of arrays in it are names
of components. -/
theorem schema_congr {n : Node}
    (agree : ∀ m, n.Contains m → m.shape = .array → ∀ element, m.facets.element = some element →
      first element = second element) : n.schema first = n.schema second := by
  induction n with
  | mk f properties ih =>
      have below : schemas first properties = schemas second properties := by
        rw [schemas_eq_mapValues, schemas_eq_mapValues]
        apply List.map_congr_left
        rintro ⟨name, slot⟩ member
        exact congrArg (name, ·)
          (ih name slot member fun m inside => agree m (.property member inside))
      rw [schema, schema, below]
      exact Facets.schema_congr _ (agree _ (.here _))

/-- Once a component is declared, the schema of a node is linked to it. -/
theorem schema_withName (n : Node) (name : String) :
    n.schema (withName registered name) = linkedSchema name (n.schema registered) := by
  induction n with
  | mk f properties ih =>
      have below : schemas (withName registered name) properties =
          Entries.mapValues (linkedSchema name) (schemas registered properties) := by
        rw [schemas_eq_mapValues, schemas_eq_mapValues, Entries.mapValues, Entries.mapValues,
          Entries.mapValues, List.map_map]
        apply List.map_congr_left
        rintro ⟨other, slot⟩ member
        exact congrArg (other, ·) (ih other slot member)
      have linked : ∀ part, part ≠ .schemas →
          (if f.showsProperties then
            propertiesBlock (requiredNames properties) (schemas registered properties)
            else []).map (linkedEntry name part) =
          if f.showsProperties then
            propertiesBlock (requiredNames properties)
              (schemas (withName registered name) properties)
            else [] := by
        intro part apart
        split
        · rw [below]
          exact linked_propertiesBlock apart ne_nil_of_mem_schemas
        · rfl
      rw [schema, schema, Facets.schema_eq, Facets.schema_eq, Face.linked_schema name linked]

/-- Once a component is declared, a schema that is described elsewhere is linked to it too. -/
theorem filter_linkedSchema (name : String) (m : Mapping) :
    (linkedSchema name m).filter (·.1 != "description") =
      linkedSchema name (m.filter (·.1 != "description")) := by
  have keeps : ∀ e : String × Value, (linkedEntry name .schema e).1 = e.1 := by
    intro e
    rw [linkedEntry]
    split
    · rfl
    · simp [linkedType]
  rw [linkedSchema, linkedSchema, List.filter_map]
  simp only [Function.comp_def, keeps]

end Node

namespace Registry

variable {r s : Registry}

/-- Components of the same names are registered under the same names. -/
theorem has_congr (names : ∀ name, name ∈ r.names ↔ name ∈ s.names) : r.has = s.has := by
  funext name
  rw [Bool.eq_iff_iff, has_eq_true_iff, has_eq_true_iff]
  exact names name

theorem has_append {c : Component} (added : s.components = r.components ++ [c]) :
    s.has = withName r.has c.name := by
  funext name
  rw [Bool.eq_iff_iff, has_eq_true_iff, withName, Bool.or_eq_true, has_eq_true_iff, beq_iff_eq]
  simp [names, added]

/-- The schemas of components are entered if all of them can be compiled. -/
theorem enterComponents_eq (registered : String → Bool) (before : Entries String Mapping)
    (components : List Component) :
    enterComponents registered before components =
      if components.all (·.node.compilable) then
        .ok (before.putAll (components.map fun c => (c.name, c.node.schema registered)))
      else .error (.badValue .tooManyDigits) := by
  induction components generalizing before with
  | nil => rfl
  | cons c rest ih =>
      rw [enterComponents, Node.schema?]
      cases compilable : c.node.compilable with
      | false => simp [compilable]; rfl
      | true =>
          rw [List.all_cons, compilable, Bool.true_and]
          exact ih _

/-- Where names differ, the schemas of components stand in the order of the components. -/
theorem schemas_eq (distinct : r.names.Nodup) :
    r.schemas =
      if r.components.all (·.node.compilable) then
        .ok (r.components.map fun c => (c.name, c.node.schema r.has))
      else .error (.badValue .tooManyDigits) := by
  have keys : Entries.keys (r.components.map fun c => (c.name, c.node.schema r.has)) = r.names := by
    simp [Entries.keys, names]
  have built := Entries.ofList_eq_self (keys.symm ▸ distinct)
  rw [schemas, enterComponents_eq]
  change (if _ then Except.ok (Entries.ofList _) else _) = _
  rw [built]

/-- In another order, the same components have the same schemas in that order. -/
theorem schemas_of_perm (distinct : r.names.Nodup) (order : s.components.Perm r.components) :
    Attempt.failure? s.schemas = Attempt.failure? r.schemas ∧
      ∀ schemas, r.schemas = .ok schemas → ∃ permuted, s.schemas = .ok permuted ∧
        permuted.Perm schemas ∧ schemas.keys = r.names ∧ permuted.keys = s.names ∧
        ∀ name, permuted.get? name = schemas.get? name := by
  have names : s.names.Perm r.names := order.map _
  have has : s.has = r.has := has_congr fun _ => names.mem_iff
  have compilable : s.components.all (·.node.compilable) = r.components.all (·.node.compilable) :=
    order.all_eq
  have distinctToo : s.names.Nodup := names.nodup_iff.mpr distinct
  rw [schemas_eq distinct, schemas_eq distinctToo, compilable, has]
  split
  · refine ⟨rfl, ?_⟩
    rintro _ ⟨⟩
    have permuted := order.map fun c => (c.name, c.node.schema r.has)
    have keys : ∀ components : List Component,
        Entries.keys (components.map fun c => (c.name, c.node.schema r.has)) =
          components.map (·.name) := by
      intro components
      rw [Entries.keys, List.map_map]
      rfl
    refine ⟨_, rfl, permuted, keys _, keys _, ?_⟩
    intro name
    rw [Option.ext_iff]
    intro schema
    rw [Entries.get?_eq_some_iff ((keys _).symm ▸ distinctToo),
      Entries.get?_eq_some_iff ((keys _).symm ▸ distinct)]
    exact permuted.mem_iff
  · refine ⟨rfl, ?_⟩
    intro _ failed
    cases failed

/-- The order in which components are declared does not matter.  A schema depends on no more of the
registry than which element types of arrays in it are names of components.  So the same components
in another order have the same operations by path, and the same schemas in that order.  And one
more component changes nothing but the items of arrays of its name, which refer to it. -/
theorem schemas_independent_of_order :
    (∀ (r s : Registry) (n : Node),
      (∀ m, n.Contains m → m.shape = .array → ∀ element, m.facets.element = some element →
        r.has element = s.has element) →
      n.schema? r.has = n.schema? s.has) ∧
    (∀ r s : Registry, r.names.Nodup → s.components.Perm r.components →
      s.endpoints = r.endpoints →
      s.paths = r.paths ∧ Attempt.failure? s.schemas = Attempt.failure? r.schemas ∧
        ∀ schemas, r.schemas = .ok schemas → ∃ permuted, s.schemas = .ok permuted ∧
          permuted.Perm schemas ∧ schemas.keys = r.names ∧ permuted.keys = s.names ∧
          ∀ name, permuted.get? name = schemas.get? name) ∧
    ∀ (r s : Registry) (c : Component), s.components = r.components ++ [c] → ∀ n : Node,
      n.schema? s.has = (n.schema? r.has).map (linkedSchema c.name) ∧
        n.contentSchema? s.has = (n.contentSchema? r.has).map (linkedSchema c.name) := by
  refine ⟨?_, ?_, ?_⟩
  · intro r s n agree
    rw [Node.schema?, Node.schema?, Node.schema_congr agree]
  · intro r s distinct order endpoints
    have has : s.has = r.has := has_congr fun _ => (order.map _).mem_iff
    have paths : s.paths = r.paths := by rw [Registry.paths, Registry.paths, has, endpoints]
    exact ⟨paths, schemas_of_perm distinct order⟩
  · intro r s c added n
    have linked : n.schema? s.has = (n.schema? r.has).map (linkedSchema c.name) := by
      rw [has_append added, Node.schema?, Node.schema?, Node.schema_withName]
      cases n.compilable <;> rfl
    refine ⟨linked, ?_⟩
    rw [Node.contentSchema?, Node.contentSchema?, linked, Attempt.map_map, Attempt.map_map]
    simp only [Node.filter_linkedSchema]

/-- Arrays of a type or of a component. -/
def arrayOf (element : String) : Node :=
  .mk { Facets.blank with type := .named "array", element := element } []

/-- Shelves hold books, and books name their shelves. -/
def booksLast : Registry :=
  ⟨[⟨"Shelf", arrayOf "Book"⟩, ⟨"Book", arrayOf "Shelf"⟩], []⟩

/-- The same components, the other way around. -/
def booksFirst : Registry :=
  ⟨[⟨"Book", arrayOf "Shelf"⟩, ⟨"Shelf", arrayOf "Book"⟩], []⟩

/-- Shelves before books are declared. -/
def shelvesAlone : Registry :=
  ⟨[⟨"Shelf", arrayOf "Book"⟩], []⟩

/-- Books have the same schema before and after shelves.  Once books are declared, shelves refer to
them. -/
theorem schemas_of_books :
    (arrayOf "Book").schema? booksFirst.has = (arrayOf "Book").schema? booksLast.has ∧
    booksFirst.paths = booksLast.paths ∧
    (∃ permuted, booksFirst.schemas = .ok permuted ∧ permuted.keys = ["Book", "Shelf"] ∧
      permuted.get? "Shelf" = some [("type", .str "array"), ("description", .str ""),
        ("items", record [("$ref", .str "#/components/schemas/Book")])]) ∧
    (arrayOf "Book").schema? shelvesAlone.has = .ok [("type", .str "array"),
      ("description", .str ""), ("items", record [("type", .str "Book")])] ∧
    (arrayOf "Book").schema? booksLast.has = .ok [("type", .str "array"),
      ("description", .str ""), ("items", record [("$ref", .str "#/components/schemas/Book")])] := by
  rcases schemas_independent_of_order with ⟨agreeing, ordered, declared⟩
  have known : ∀ element, booksFirst.has element = booksLast.has element :=
    fun _ => congrFun (has_congr fun _ => (List.Perm.swap _ _ _).mem_iff) _
  have distinct : booksLast.names.Nodup := by decide
  rcases ordered booksLast booksFirst distinct (.swap _ _ _) rfl with ⟨paths, -, schemas⟩
  have before : booksLast.schemas = .ok [
      ("Shelf", [("type", .str "array"), ("description", .str ""),
        ("items", record [("$ref", .str "#/components/schemas/Book")])]),
      ("Book", [("type", .str "array"), ("description", .str ""),
        ("items", record [("$ref", .str "#/components/schemas/Shelf")])])] := by
    decide +kernel
  rcases schemas _ before with ⟨permuted, permutedEq, -, -, keys, found⟩
  have alone : (arrayOf "Book").schema? shelvesAlone.has = .ok [("type", .str "array"),
      ("description", .str ""), ("items", record [("type", .str "Book")])] := by
    decide +kernel
  have linked := (declared shelvesAlone booksLast ⟨"Book", arrayOf "Shelf"⟩ rfl (arrayOf "Book")).1
  rw [alone] at linked
  exact ⟨agreeing _ _ _ fun _ _ _ element _ => known element, paths,
    ⟨permuted, permutedEq, keys, found "Shelf"⟩, alone, linked⟩

end Registry

end ApiContract
