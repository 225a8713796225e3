import ApiContract.Proofs.Document.Assembly
import ApiContract.Proofs.Schema.Tree
import ApiContract.Proofs.Value.TextKeys

/-!
# What a schema shows of a node

A schema leaves out part of what is declared: a reference shows neither its
description nor its properties, an array shows properties only if its elements
are objects, and everything that is empty goes without an entry of its own.
What is visible of a node is what is left.  Two nodes have the same schema
exactly if the same is visible of them, so all that is visible can be read from
a schema.

The reason is that the entries of a schema are told apart by their keys.  An
entry may be left out, but none of the keys that come after it is its own, so
whether it is there and what it says is read from the schema; and of the names
of required properties each stands for one property only.
-/

namespace ApiContract

open Value (record record_inj)

/-- What the schema of a node shows of its facets.  A reference shows its target and, unless it
is an array of that component, whether it may be null. -/
inductive Face where
  | reference (target : String) (nullable : Bool)
  | references (target : String)
  | array (description : String) (nullable : Bool) (element : Option String)
  | union (members : List Value) (description : String) (allowed : Option (List Value))
      (nullable : Bool)
  | plain (type : TypeExpr) (description : String) (allowed : Option (List Value))
      (nullable : Bool)
  deriving DecidableEq

/-- What the schema of a node shows of the node: its face, and of its properties the names,
whether they have to be given, and what their schemas show. -/
inductive Visible where
  | mk (face : Face) (properties : List (String × Slot Visible))

namespace Facets

/-- What the schema of a node with these facets shows of them. -/
def face (f : Facets) : Face :=
  match f.shape with
  | .reference =>
    if f.type = .named "array" then .references (f.target.getD "")
    else .reference (f.target.getD "") f.nullable
  | .array => .array f.description f.nullable f.element
  | .union => .union (f.members.map Value.normalized) f.description f.allowed f.nullable
  | .object | .scalar => .plain f.type f.description f.allowed f.nullable

end Facets

namespace Node

mutual

/-- What the schema of a node shows of it. -/
def visible : Node → Visible
  | .mk f ps => .mk f.face (if f.showsProperties then visibles ps else [])

/-- What the schemas of properties show of them. -/
def visibles : List (String × Slot Node) → List (String × Slot Visible)
  | [] => []
  | (name, ⟨required, n⟩) :: rest => (name, ⟨required, visible n⟩) :: visibles rest

end

end Node

namespace Face

variable {registered : String → Bool}

/-- Whether a schema with a face shows properties. -/
def showsProperties : Face → Bool
  | .array _ _ element => element == some "object"
  | .plain _ _ _ _ => true
  | .reference _ _ | .references _ | .union _ _ _ _ => false

/-- The entry for what may be null. -/
def nullableEntry (nullable : Bool) : Option (String × Value) :=
  if nullable then some ("nullable", .bool true) else none

/-- The entry for what values are allowed. -/
def enumEntry (allowed : Option (List Value)) : Option (String × Value) :=
  allowed.map fun values => ("enum", .list values)

/-- The entry for a type. -/
def typeEntry : TypeExpr → Option (String × Value)
  | .unset => none
  | type => some ("type", type.toValue)

/-- The entry for the elements of an array. -/
def elementEntry (registered : String → Bool) (element : Option String) :
    Option (String × Value) :=
  element.map fun name =>
    if registered name then ("$ref", .str (componentsPath ++ name)) else ("type", .str name)

/-- Whether null is allowed, and what follows. -/
def marks (nullable : Bool) (block : Mapping) : Mapping :=
  (nullableEntry nullable).toList ++ block

/-- What values are allowed, null among them or not, and what follows. -/
def values (allowed : Option (List Value)) (nullable : Bool) (block : Mapping) : Mapping :=
  (enumEntry allowed).toList ++ marks nullable block

/-- The schema with a face, where `block` is what it shows of properties. -/
def schema (registered : String → Bool) (block : Mapping) : Face → Mapping
  | .reference target nullable => refTo target ++ marks nullable []
  | .references target => [("type", .str "array"), ("items", record (refTo target))]
  | .array description nullable element =>
    [("type", .str "array"), ("description", .str description),
      ("items", record ((elementEntry registered element).toList ++ marks nullable block))]
  | .union members description allowed nullable =>
    ("anyOf", .list (members.map fun m => record [("type", m)])) ::
      ("description", .str description) :: values allowed nullable []
  | .plain type description allowed nullable =>
    (typeEntry type).toList ++
      ("description", .str description) :: values allowed nullable block

theorem nullableEntry_inj {m n : Bool} : nullableEntry m = nullableEntry n ↔ m = n := by
  cases m <;> cases n <;> simp [nullableEntry]

theorem enumEntry_inj {v w : Option (List Value)} : enumEntry v = enumEntry w ↔ v = w := by
  cases v <;> cases w <;> simp [enumEntry]

theorem typeEntry_inj {s t : TypeExpr} : typeEntry s = typeEntry t ↔ s = t := by
  cases s <;> cases t <;> simp [typeEntry, TypeExpr.toValue]

/-- Components and types are told apart by the key, and each kind by the name. -/
theorem elementEntry_inj {e d : Option String} :
    elementEntry registered e = elementEntry registered d ↔ e = d := by
  constructor
  · intro equal
    cases e with
    | none =>
        cases d with
        | none => rfl
        | some d => simp [elementEntry] at equal
    | some e =>
        cases d with
        | none => simp [elementEntry] at equal
        | some d =>
            by_cases he : registered e <;> by_cases hd : registered d <;>
              simp_all [elementEntry]
  · rintro rfl
    rfl

theorem keys_nullableEntry (nullable : Bool) :
    Entries.keys (nullableEntry nullable).toList ⊆ ["nullable"] := by
  cases nullable <;> simp [nullableEntry]

theorem keys_enumEntry (allowed : Option (List Value)) :
    Entries.keys (enumEntry allowed).toList ⊆ ["enum"] := by
  cases allowed <;> simp [enumEntry]

theorem keys_typeEntry (type : TypeExpr) : Entries.keys (typeEntry type).toList ⊆ ["type"] := by
  cases type <;> simp [typeEntry]

theorem keys_elementEntry (element : Option String) :
    Entries.keys (elementEntry registered element).toList ⊆ ["$ref", "type"] := by
  cases element with
  | none => simp [elementEntry]
  | some name => by_cases component : registered name <;> simp [elementEntry, component]

/-- An entry that may be left out and what follows it are both read from a mapping, if the key
of the entry is none of the keys that follow. -/
theorem toList_append_inj {own names : List String} {v w : Option (String × Value)}
    {rest more : Mapping} (ownV : Entries.keys v.toList ⊆ own)
    (ownW : Entries.keys w.toList ⊆ own) (restKeys : rest.keys ⊆ names)
    (moreKeys : more.keys ⊆ names) (apart : own.Disjoint names) :
    v.toList ++ rest = w.toList ++ more ↔ v = w ∧ rest = more := by
  constructor
  · intro equal
    cases v with
    | none =>
        cases w with
        | none => exact ⟨rfl, equal⟩
        | some b =>
            have read : rest = b :: more := equal
            have first : b.1 ∈ rest.keys := by simp [read]
            exact absurd (restKeys first) (apart (ownW (by simp)))
    | some a =>
        cases w with
        | none =>
            have read : a :: rest = more := equal
            have first : a.1 ∈ more.keys := by simp [← read]
            exact absurd (moreKeys first) (apart (ownV (by simp)))
        | some b => simpa using equal
  · rintro ⟨rfl, rfl⟩
    rfl

/-- What is shown of properties has no key of its own but these. -/
def IsBlock (block : Mapping) : Prop :=
  block.keys ⊆ ["required", "properties"]

theorem isBlock_nil : IsBlock [] :=
  List.nil_subset _

section Blocks

variable {b c : Mapping} (blockB : IsBlock b) (blockC : IsBlock c)

include blockB in
theorem keys_marks (nullable : Bool) :
    (marks nullable b).keys ⊆ ["nullable", "required", "properties"] := by
  rw [marks, Entries.keys, List.map_append]
  exact List.append_subset.mpr
    ⟨List.Subset.trans (keys_nullableEntry nullable) (by simp), List.Subset.trans blockB (by simp)⟩

include blockB in
theorem keys_values (allowed : Option (List Value)) (nullable : Bool) :
    (values allowed nullable b).keys ⊆ ["enum", "nullable", "required", "properties"] := by
  rw [values, Entries.keys, List.map_append]
  exact List.append_subset.mpr
    ⟨List.Subset.trans (keys_enumEntry allowed) (by simp),
      List.Subset.trans (keys_marks blockB nullable) (by simp)⟩

include blockB blockC

theorem marks_inj {m n : Bool} : marks m b = marks n c ↔ m = n ∧ b = c := by
  rw [marks, marks, toList_append_inj (keys_nullableEntry m) (keys_nullableEntry n) blockB blockC
    (by simp), nullableEntry_inj]

theorem values_inj {v w : Option (List Value)} {m n : Bool} :
    values v m b = values w n c ↔ v = w ∧ m = n ∧ b = c := by
  rw [values, values, toList_append_inj (keys_enumEntry v) (keys_enumEntry w)
    (keys_marks blockB m) (keys_marks blockC n) (by simp), enumEntry_inj, marks_inj blockB blockC]

theorem array_inj {d e : String} {m n : Bool} {x y : Option String} :
    (array d m x).schema registered b = (array e n y).schema registered c ↔
      array d m x = array e n y ∧ b = c := by
  have items : (elementEntry registered x).toList ++ marks m b =
      (elementEntry registered y).toList ++ marks n c ↔ x = y ∧ m = n ∧ b = c := by
    rw [toList_append_inj (keys_elementEntry x) (keys_elementEntry y) (keys_marks blockB m)
      (keys_marks blockC n) (by simp), elementEntry_inj, marks_inj blockB blockC]
  simp only [schema, List.cons.injEq, Prod.mk.injEq, true_and, and_true, Value.str.injEq,
    record_inj, items, array.injEq]
  tauto

theorem plain_inj {s t : TypeExpr} {d e : String} {v w : Option (List Value)} {m n : Bool} :
    (plain s d v m).schema registered b = (plain t e w n).schema registered c ↔
      plain s d v m = plain t e w n ∧ b = c := by
  have described : ∀ {b : Mapping} (_ : IsBlock b) d v m,
      Entries.keys (("description", .str d) :: values v m b) ⊆
        ["description", "enum", "nullable", "required", "properties"] := by
    intro b block d v m
    exact List.cons_subset_cons _ (keys_values block v m)
  rw [schema, schema, toList_append_inj (keys_typeEntry s) (keys_typeEntry t)
    (described blockB d v m) (described blockC e w n) (by simp), typeEntry_inj]
  simp only [List.cons.injEq, Prod.mk.injEq, true_and, Value.str.injEq,
    values_inj blockB blockC, plain.injEq]
  tauto

omit blockB blockC in
theorem union_inj {v w : List Value} {d e : String} {a a' : Option (List Value)} {m n : Bool} :
    (union v d a m).schema registered b = (union w e a' n).schema registered c ↔
      union v d a m = union w e a' n := by
  have members : Function.Injective fun m : Value => record [("type", m)] := by
    intro v w equal
    simpa using equal
  simp only [schema, List.cons.injEq, Prod.mk.injEq, true_and, Value.str.injEq, Value.list.injEq,
    (List.map_injective_iff.mpr members).eq_iff, values_inj isBlock_nil isBlock_nil, union.injEq,
    and_true]

omit blockB blockC in
theorem references_inj {s t : String} :
    (references s).schema registered b = (references t).schema registered c ↔
      references s = references t := by
  simp [schema, refTo]

omit blockB blockC in
theorem reference_inj {s t : String} {m n : Bool} :
    (reference s m).schema registered b = (reference t n).schema registered c ↔
      reference s m = reference t n := by
  simp [schema, refTo, marks_inj isBlock_nil isBlock_nil]

end Blocks

/-- Whether a schema with a face has no mark of its own, but just the type and what is said of
it. -/
def isPlain : Face → Bool
  | .plain _ _ _ _ => true
  | _ => false

/-- Plain schemas are those that have none of the keys by which the others are known. -/
theorem isPlain_iff {s : Face} {block : Mapping} (isBlock : IsBlock block) :
    s.isPlain = true ↔
      ∀ key ∈ ["$ref", "items", "anyOf"], key ∉ (s.schema registered block).keys := by
  cases s with
  | plain type description allowed nullable =>
      have apart : ["$ref", "items", "anyOf"].Disjoint
          ["type", "description", "enum", "nullable", "required", "properties"] := by simp
      have keys : ((plain type description allowed nullable).schema registered block).keys ⊆
          ["type", "description", "enum", "nullable", "required", "properties"] := by
        rw [schema, Entries.keys, List.map_append]
        refine List.append_subset.mpr
          ⟨List.Subset.trans (keys_typeEntry type) (by simp),
            List.cons_subset.mpr ⟨by simp, ?_⟩⟩
        exact List.Subset.trans (keys_values isBlock allowed nullable) (by simp)
      exact iff_of_true rfl fun key other shown => apart other (keys shown)
  | reference | references | array | union => simp [isPlain, schema, refTo]

/-- A face and what is shown of properties are both read from the schema. -/
theorem schema_eq_iff {s t : Face} {b c : Mapping} (blockB : IsBlock b) (blockC : IsBlock c)
    (noneB : s.showsProperties = false → b = []) (noneC : t.showsProperties = false → c = []) :
    s.schema registered b = t.schema registered c ↔ s = t ∧ b = c := by
  constructor
  · intro equal
    have kinds : s.isPlain = t.isPlain := by
      rw [Bool.eq_iff_iff, isPlain_iff blockB, isPlain_iff blockC, equal]
    cases s with
    | plain =>
        cases t with
        | plain => exact (plain_inj blockB blockC).mp equal
        | reference | references | array | union => simp [isPlain] at kinds
    | reference =>
        cases t with
        | reference => exact ⟨reference_inj.mp equal, (noneB rfl).trans (noneC rfl).symm⟩
        | plain => simp [isPlain] at kinds
        | references | array | union => simp [schema, refTo] at equal
    | references =>
        cases t with
        | references =>
            have target := references_inj.mp equal
            exact ⟨target, (noneB rfl).trans (noneC rfl).symm⟩
        | plain => simp [isPlain] at kinds
        | reference | array | union => simp [schema, refTo] at equal
    | array =>
        cases t with
        | array => exact (array_inj blockB blockC).mp equal
        | plain => simp [isPlain] at kinds
        | reference | references | union => simp [schema, refTo] at equal
    | union =>
        cases t with
        | union => exact ⟨union_inj.mp equal, (noneB rfl).trans (noneC rfl).symm⟩
        | plain => simp [isPlain] at kinds
        | reference | references | array => simp [schema, refTo] at equal
  · rintro ⟨rfl, rfl⟩
    rfl

end Face

namespace Facets

theorem showsProperties_face (f : Facets) : f.face.showsProperties = f.showsProperties := by
  rw [face, showsProperties]
  cases f.shape with
  | reference => by_cases array : f.type = .named "array" <;> simp [array, Face.showsProperties]
  | array | union | object | scalar => rfl

theorem type_of_shape_array {f : Facets} (shape : f.shape = .array) : f.type = .named "array" := by
  rcases f with ⟨type, element, _, reference, _, _, _, mark⟩
  simp only [Facets.shape, Shape.of] at shape
  split at shape
  · cases shape
  · split at shape
    · cases shape
    · cases type with
      | unset | union => cases shape
      | named tag =>
          simp only [Shape.ofType] at shape
          split at shape
          · simp_all
          · split at shape <;> cases shape

theorem nullableMark_eq (f : Facets) :
    f.nullableMark = (Face.nullableEntry f.nullable).toList := by
  cases nullable : f.nullable <;> simp [nullableMark, Face.nullableEntry, nullable]

theorem valueMarks_eq (f : Facets) :
    f.valueMarks = (Face.enumEntry f.allowed).toList ++ (Face.nullableEntry f.nullable).toList := by
  cases allowed : f.allowed <;> simp [valueMarks, Face.enumEntry, allowed, nullableMark_eq]

theorem keys_nullableMark (f : Facets) :
    Entries.keys f.nullableMark ⊆ ["nullable"] := by
  rw [nullableMark_eq]
  exact Face.keys_nullableEntry f.nullable

theorem keys_valueMarks (f : Facets) :
    Entries.keys f.valueMarks ⊆ ["enum", "nullable"] := by
  rw [valueMarks_eq, Entries.keys, List.map_append]
  exact List.append_subset.mpr ⟨List.Subset.trans (Face.keys_enumEntry f.allowed) (by simp),
    List.Subset.trans (Face.keys_nullableEntry f.nullable) (by simp)⟩

theorem typeMark_eq (f : Facets) : f.typeMark = (Face.typeEntry f.type).toList := by
  cases type : f.type <;> simp [typeMark, Face.typeEntry, type]

theorem items_eq (registered : String → Bool) (f : Facets) :
    f.items registered = (Face.elementEntry registered f.element).toList := by
  cases element : f.element with
  | none => simp [items, Face.elementEntry, element]
  | some name =>
      by_cases component : registered name <;>
        simp [items, Face.elementEntry, element, component, refTo]

/-- Of the facets of a node its schema shows nothing but the face. -/
theorem schema_eq (registered : String → Bool) (f : Facets) (block : Mapping) :
    f.schema registered block = f.face.schema registered block := by
  cases shape : f.shape with
  | reference =>
      by_cases array : f.type = .named "array" <;>
        simp [schema, face, shape, array, Face.schema, nullableMark_eq, Face.marks]
  | array =>
      simp [schema, face, shape, type_of_shape_array shape, TypeExpr.toValue, Face.schema,
        items_eq, nullableMark_eq, Face.marks]
  | union =>
      simp [schema, face, shape, Face.schema, valueMarks_eq, Face.values, Face.marks,
        Function.comp_def]
  | object | scalar =>
      simp [schema, face, shape, Face.schema, typeMark_eq, valueMarks_eq, Face.values, Face.marks]

end Facets

/-- The entry for the names of the properties that have to be given. -/
def requiredEntry (names : List String) : Option (String × Value) :=
  if names = [] then none else some ("required", .list (names.map .str))

/-- The entry for the schemas of properties. -/
def propertiesEntry (schemas : Entries String Mapping) : Option (String × Value) :=
  if schemas = [] then none
  else some ("properties", record (Entries.mapValues record schemas))

theorem propertiesBlock_eq {required : List String} {schemas : Entries String Mapping}
    (shown : ∀ e ∈ schemas, e.2 ≠ []) :
    propertiesBlock required schemas =
      (requiredEntry required).toList ++ (propertiesEntry schemas).toList := by
  have all : schemas.filter (fun e => !e.2.isEmpty) = schemas := by
    simpa [List.filter_eq_self] using shown
  rw [propertiesBlock, all, requiredEntry, propertiesEntry]
  by_cases none : required = [] <;> by_cases empty : schemas = [] <;> simp [none, empty]

theorem requiredEntry_inj {names others : List String} :
    requiredEntry names = requiredEntry others ↔ names = others := by
  have texts : Function.Injective Value.str := fun _ _ => Value.str.inj
  by_cases none : names = [] <;> by_cases none' : others = [] <;>
    simp [requiredEntry, none, none', (List.map_injective_iff.mpr texts).eq_iff, Ne.symm]

theorem propertiesEntry_inj {schemas others : Entries String Mapping} :
    propertiesEntry schemas = propertiesEntry others ↔ schemas = others := by
  have entries : Function.Injective fun e : String × Mapping => (e.1, record e.2) := by
    rintro ⟨j, v⟩ ⟨k, w⟩ equal
    simpa using equal
  by_cases none : schemas = [] <;> by_cases none' : others = [] <;>
    simp [propertiesEntry, none, none', Entries.mapValues,
      (List.map_injective_iff.mpr entries).eq_iff, Ne.symm]

theorem keys_requiredEntry (names : List String) :
    Entries.keys (requiredEntry names).toList ⊆ ["required"] := by
  by_cases none : names = [] <;> simp [requiredEntry, none]

theorem keys_propertiesEntry (schemas : Entries String Mapping) :
    Entries.keys (propertiesEntry schemas).toList ⊆ ["properties"] := by
  by_cases none : schemas = [] <;> simp [propertiesEntry, none]

theorem isBlock_propertiesBlock {required : List String} {schemas : Entries String Mapping}
    (shown : ∀ e ∈ schemas, e.2 ≠ []) : Face.IsBlock (propertiesBlock required schemas) := by
  rw [propertiesBlock_eq shown, Face.IsBlock, Entries.keys, List.map_append]
  exact List.append_subset.mpr ⟨List.Subset.trans (keys_requiredEntry required) (by simp),
    List.Subset.trans (keys_propertiesEntry schemas) (by simp)⟩

/-- The required names and the schemas are both read from what is shown of properties, if no
schema is empty. -/
theorem propertiesBlock_inj {required names : List String} {schemas others : Entries String Mapping}
    (shown : ∀ e ∈ schemas, e.2 ≠ []) (shown' : ∀ e ∈ others, e.2 ≠ []) :
    propertiesBlock required schemas = propertiesBlock names others ↔
      required = names ∧ schemas = others := by
  have last : ∀ {v w : Option (String × Value)}, v.toList = w.toList ↔ v = w := by
    intro v w
    cases v <;> cases w <;> simp
  rw [propertiesBlock_eq shown, propertiesBlock_eq shown',
    Face.toList_append_inj (keys_requiredEntry required) (keys_requiredEntry names)
      (keys_propertiesEntry schemas) (keys_propertiesEntry others) (by simp), requiredEntry_inj,
    last, propertiesEntry_inj]

/-- Every schema shows something. -/
theorem Face.schema_ne_nil (registered : String → Bool) (block : Mapping) (face : Face) :
    face.schema registered block ≠ [] := by
  cases face <;> simp [schema, refTo]

namespace Node

theorem schema_ne_nil (registered : String → Bool) (n : Node) : n.schema registered ≠ [] := by
  cases n with
  | mk facets properties =>
      rw [schema, Facets.schema_eq]
      exact Face.schema_ne_nil registered _ _

theorem ne_nil_of_mem_schemas {registered : String → Bool}
    {properties : List (String × Slot Node)} :
    ∀ e ∈ schemas registered properties, e.2 ≠ [] := by
  rintro ⟨name, m⟩ member
  rcases mem_schemas member with ⟨slot, -, rfl⟩
  exact schema_ne_nil registered slot.content

theorem mem_names_of_mem_requiredNames {ps : List (String × Slot Node)} {name : String}
    (required : name ∈ requiredNames ps) : name ∈ Entries.keys ps := by
  rcases List.mem_map.mp required with ⟨p, listed, rfl⟩
  exact List.mem_map_of_mem (List.mem_of_mem_filter listed)

theorem requiredNames_cons (name : String) (slot : Slot Node) (rest : List (String × Slot Node)) :
    requiredNames ((name, slot) :: rest) =
      if slot.required then name :: requiredNames rest else requiredNames rest := by
  cases required : slot.required <;> simp [requiredNames, required]

/-- Whether a property is required is read from the names of the required ones, if no other
property has its name. -/
theorem requiredNames_cons_eq_iff {ps qs : List (String × Slot Node)} {name : String}
    {p q : Slot Node} (fresh : name ∉ Entries.keys ps) (fresh' : name ∉ Entries.keys qs) :
    requiredNames ((name, p) :: ps) = requiredNames ((name, q) :: qs) ↔
      p.required = q.required ∧ requiredNames ps = requiredNames qs := by
  have other : requiredNames ps ≠ name :: requiredNames qs := by
    intro equal
    exact fresh (mem_names_of_mem_requiredNames (equal ▸ List.mem_cons_self))
  have other' : name :: requiredNames ps ≠ requiredNames qs := by
    intro equal
    exact fresh' (mem_names_of_mem_requiredNames (equal ▸ List.mem_cons_self))
  rw [requiredNames_cons, requiredNames_cons]
  cases p.required <;> cases q.required <;> simp [other, other']

/-- The names of the required properties and the schemas show of properties what is visible of
them. -/
theorem visibles_eq_iff {registered : String → Bool} {ps qs : List (String × Slot Node)}
    (names : (Entries.keys ps).Nodup) (names' : (Entries.keys qs).Nodup)
    (contents : ∀ p ∈ ps, ∀ q ∈ qs,
      p.2.content.schema registered = q.2.content.schema registered ↔
        p.2.content.visible = q.2.content.visible) :
    requiredNames ps = requiredNames qs ∧ schemas registered ps = schemas registered qs ↔
      visibles ps = visibles qs := by
  induction ps generalizing qs with
  | nil => cases qs <;> simp [schemas, visibles]
  | cons p ps ih =>
      cases qs with
      | nil => simp [schemas, visibles]
      | cons q qs =>
          rcases p with ⟨j, a⟩
          rcases q with ⟨k, b⟩
          rw [Entries.keys_cons, List.nodup_cons] at names names'
          have head := contents _ List.mem_cons_self _ List.mem_cons_self
          have tail := ih names.2 names'.2 fun p listed q listed' =>
            contents p (List.mem_cons_of_mem _ listed) q (List.mem_cons_of_mem _ listed')
          rw [schemas, schemas, visibles, visibles, List.cons.injEq, List.cons.injEq, ← tail,
            Prod.mk.injEq, Prod.mk.injEq, Slot.mk.injEq, ← head]
          constructor
          · rintro ⟨required, ⟨rfl, schemas⟩, rest⟩
            have flags := (requiredNames_cons_eq_iff names.1 names'.1).mp required
            exact ⟨⟨rfl, flags.1, schemas⟩, flags.2, rest⟩
          · rintro ⟨⟨rfl, flag, schemas⟩, required, rest⟩
            exact ⟨(requiredNames_cons_eq_iff names.1 names'.1).mpr ⟨flag, required⟩,
              ⟨rfl, schemas⟩, rest⟩

/-- Two schemas of one registry are the same exactly if they show the same of their nodes. -/
theorem schema_eq_iff {registered : String → Bool} {m n : Node} (distinct : m.Distinct)
    (distinct' : n.Distinct) :
    m.schema registered = n.schema registered ↔ m.visible = n.visible := by
  induction m generalizing n with
  | mk f ps ih =>
      cases n with
      | mk g qs =>
          have block : ∀ (f : Facets) ps, Face.IsBlock (if f.showsProperties then
              propertiesBlock (requiredNames ps) (schemas registered ps) else []) := by
            intro f ps
            split
            · exact isBlock_propertiesBlock ne_nil_of_mem_schemas
            · exact Face.isBlock_nil
          have hidden : ∀ (f : Facets) (block : Mapping), f.face.showsProperties = false →
              (if f.showsProperties then block else []) = [] := by
            intro f block none
            simp [← f.showsProperties_face, none]
          rw [schema, schema, Facets.schema_eq, Facets.schema_eq,
            Face.schema_eq_iff (block f ps) (block g qs) (hidden f _) (hidden g _), visible,
            visible, Visible.mk.injEq]
          refine and_congr_right fun faces => ?_
          have same : f.showsProperties = g.showsProperties := by
            rw [← f.showsProperties_face, ← g.showsProperties_face, faces]
          cases shows : g.showsProperties with
          | false => simp [same, shows]
          | true =>
              have contents : ∀ p ∈ ps, ∀ q ∈ qs,
                  p.2.content.schema registered = q.2.content.schema registered ↔
                    p.2.content.visible = q.2.content.visible := fun p listed q listed' =>
                ih p.1 p.2 listed (distinct.property listed) (distinct'.property listed')
              simp only [same, shows, if_true]
              rw [propertiesBlock_inj ne_nil_of_mem_schemas ne_nil_of_mem_schemas]
              exact visibles_eq_iff distinct.names distinct'.names contents

/-- Two nodes that both have a schema have the same, entry by entry, exactly if the same is
visible of them. -/
theorem compiled_eq_iff {registered : String → Bool} {m n : Node} (distinct : m.Distinct)
    (distinct' : n.Distinct) {s t : Mapping} (compiled : m.schema? registered = .ok s)
    (compiled' : n.schema? registered = .ok t) : s = t ↔ m.visible = n.visible := by
  rcases schema?_eq_ok_iff.mp compiled with ⟨-, rfl⟩
  rcases schema?_eq_ok_iff.mp compiled' with ⟨-, rfl⟩
  exact schema_eq_iff distinct distinct'

/-- A list of objects that have a count, which may have to be given. -/
def counted (required : Bool) : Node :=
  .mk { Facets.blank with type := .named "array", element := "object" }
    [("count", ⟨required, .mk { Facets.blank with type := .named "number" } []⟩)]

/-- The schema of a list of objects with a count shows whether the count has to be given. -/
theorem visible_counted_ne : (counted true).visible ≠ (counted false).visible := by
  have distinct : ∀ required, (counted required).Distinct := by
    intro required
    simp [counted]
  have schema : ∀ required, (counted required).schema? (fun _ => false) =
      .ok ((counted required).schema fun _ => false) := fun _ => rfl
  have agree := compiled_eq_iff (distinct true) (distinct false) (schema true) (schema false)
  exact mt agree.mpr (by decide +kernel)

end Node

end ApiContract
