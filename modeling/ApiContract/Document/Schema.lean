import ApiContract.Registry.Basic

/-!
# Schemas

The schema of a node is an ordered mapping.  What it shows goes by the shape:
a reference shows the component it refers to, an array its items, a union its
members, and everything else its type and its properties.  The only thing a
schema takes from the registry is which element types of arrays are names of
components.

A union member that cannot be displayed has no schema.  `Node.compilable` says
that the schema of a node shows no such member; `Node.schema` gives the schema
of a node of which this holds.
-/

namespace ApiContract

/-- An ordered mapping from texts, as documents are made of. -/
abbrev Mapping := Entries String Value

/-- What stands before the name of a component in a reference to it. -/
def componentsPath : String :=
  "#/components/schemas/"

/-- A reference to a component. -/
def refTo (name : String) : Mapping :=
  [("$ref", .str (componentsPath ++ name))]

/-- The one spelling of a union member. -/
def Value.normalized (v : Value) : Value :=
  v.normalized?.getD .null

namespace Facets

/-- Whether the schema of a node with these facets shows its properties: objects
and scalars do, and arrays of objects for their items. -/
def showsProperties (f : Facets) : Bool :=
  match f.shape with
  | .object | .scalar => true
  | .array => f.element == some "object"
  | .reference | .union => false

/-- The mark of a node that may be null. -/
def nullableMark (f : Facets) : Mapping :=
  if f.nullable then [("nullable", .bool true)] else []

/-- The allowed values, when there are any, and whether null is one. -/
def valueMarks (f : Facets) : Mapping :=
  (match f.allowed with
    | some values => [("enum", .list values)]
    | none => []) ++ f.nullableMark

/-- The items of an array: of a component, or of a type. -/
def items (registered : String → Bool) (f : Facets) : Mapping :=
  match f.element with
  | none => []
  | some element => if registered element then refTo element else [("type", .str element)]

/-- The members of a union, each a schema of its own. -/
def members (f : Facets) : List Value :=
  match f.type with
  | .union members => members
  | _ => []

/-- The type of a node that is neither a reference nor an array nor a union. -/
def typeMark (f : Facets) : Mapping :=
  match f.type with
  | .unset => []
  | type => [("type", type.toValue)]

/-- The schema of a node with these facets, where `block` is what it shows of its
properties. -/
def schema (registered : String → Bool) (f : Facets) (block : Mapping) : Mapping :=
  match f.shape with
  | .reference =>
    let ref := refTo (f.target.getD "")
    if f.type == .named "array" then [("type", .str "array"), ("items", Value.record ref)]
    else ref ++ f.nullableMark
  | .array =>
    [("type", f.type.toValue), ("description", .str f.description),
      ("items", Value.record (f.items registered ++ f.nullableMark ++ block))]
  | .union =>
    [("anyOf", .list (f.members.map fun m => Value.record [("type", m.normalized)])),
      ("description", .str f.description)] ++ f.valueMarks
  | .object | .scalar =>
    f.typeMark ++ [("description", .str f.description)] ++ f.valueMarks ++ block

end Facets

/-- The names of the properties that have to be given. -/
def requiredNames (properties : Entries String (Slot Node)) : List String :=
  (properties.filter (·.2.required)).map (·.1)

/-- What a schema shows of properties: the names of the required ones and the
schemas that are not empty, each left out when there are none. -/
def propertiesBlock (required : List String) (schemas : Entries String Mapping) : Mapping :=
  let shown := schemas.filter fun e => !e.2.isEmpty
  (if required.isEmpty then [] else [("required", .list (required.map .str))]) ++
    if shown.isEmpty then []
    else [("properties", Value.record (Entries.mapValues Value.record shown))]

namespace Node

mutual

/-- The schema of a node. -/
def schema (registered : String → Bool) : Node → Mapping
  | .mk f ps =>
    f.schema registered
      (if f.showsProperties then propertiesBlock (requiredNames ps) (schemas registered ps)
        else [])

/-- The schemas of properties. -/
def schemas (registered : String → Bool) : List (String × Slot Node) → Entries String Mapping
  | [] => []
  | (name, ⟨_, n⟩) :: rest => (name, schema registered n) :: schemas registered rest

end

mutual

/-- Whether every union member that the schema of a node shows can be
displayed. -/
def compilable : Node → Bool
  | .mk f ps =>
    (f.shape != .union || f.members.all fun m => m.normalized?.isSome) &&
      (!f.showsProperties || compilableAll ps)

/-- Whether every union member that the schemas of properties show can be
displayed. -/
def compilableAll : List (String × Slot Node) → Bool
  | [] => true
  | (_, ⟨_, n⟩) :: rest => compilable n && compilableAll rest

end

/-- What is shown of the properties of a node. -/
def block (registered : String → Bool) (n : Node) : Mapping :=
  propertiesBlock (requiredNames n.properties) (schemas registered n.properties)

/-- The schema of a node, if every union member in it can be displayed. -/
def schema? (registered : String → Bool) (n : Node) : Except Failure Mapping :=
  if n.compilable then .ok (n.schema registered) else .error (.badValue .tooManyDigits)

/-- What is shown of the properties of a node, if every union member in it can be
displayed. -/
def block? (registered : String → Bool) (n : Node) : Except Failure Mapping :=
  if compilableAll n.properties then .ok (n.block registered)
  else .error (.badValue .tooManyDigits)

/-- The schema of a node that is described elsewhere. -/
def contentSchema? (registered : String → Bool) (n : Node) : Except Failure Mapping :=
  (n.schema? registered).map fun schema => schema.filter (·.1 != "description")

end Node

end ApiContract
