import ApiContract.Checked
import ApiContract.Schema.Node

/-!
# Nodes from options

A node is declared by named options.  Each kind of node has its own reading:
the facets and properties that all nodes share, then what the kind adds, then
the options that nobody knows.  Properties may be given as nested options, which
are read by recursion on the value that holds them.
-/

namespace ApiContract

/-! ### Facets -/

namespace Facets

/-- The type, in its one spelling. -/
def checkType (v : Value) : Checked TypeExpr :=
  match v.normalized? with
  | some w => .valid (TypeExpr.ofValue w)
  | none => .fault .tooManyDigits

/-- The element type, in its one spelling: a text or none. -/
def checkElement (v : Value) : Checked (Option String) :=
  match v.normalized? with
  | some .null => .valid none
  | some (.str s) => .valid (some s)
  | some (.unpaired codes) => .valid (some (Text.quotedCodes codes))
  | some _ => .fault .notText
  | none => .fault .tooManyDigits

/-- The component that is referred to, by itself or by name. -/
def checkReference : Value → Checked (Option String)
  | .null => .valid none
  | .component name => .valid (some name)
  | v => some <$> v.checkShown

/-- The description; null is an empty one. -/
def checkDescription : Value → Checked String
  | .null => .valid ""
  | v => v.checkShown

/-- Read the facets. -/
def ofOptions (options : Options) : Checked Facets :=
  (fun type element description reference enumeration allowable nullable =>
      ⟨type, element, description, reference, enumeration, allowable, nullable, none⟩)
    <$> options.optional "type" .unset checkType
    <*> options.optional "of" none checkElement
    <*> options.optional "description" "" checkDescription
    <*> options.optional (options.spelling "as" "as_") none checkReference
    <*> options.optional "enum" none Value.checkList?
    <*> options.optional "allowable_values" none Value.checkList?
    <*> options.optional "nullable" false Value.checkFlag

end Facets

/-! ### Nodes -/

/-- The options that every node knows, and those of one kind. -/
def Options.known (options : Options) (more : List String) : List String :=
  ["type", "of", "description", options.spelling "as" "as_", "enum", "allowable_values",
    "nullable", "properties"] ++ more

/-- Whether the node has to be given; it has to unless the option says no. -/
def Options.checkRequired (options : Options) : Checked Bool :=
  options.optional "required" true Value.checkFlag

/-- Read a node, its properties checked already. -/
def Node.ofChecked (options : Options) (properties : Checked (Entries String (Slot Node))) :
    Checked Node :=
  Node.mk <$> Facets.ofOptions options <*> properties

/-- Read a property or a request body, its properties checked already. -/
def Slot.ofChecked (options : Options) (properties : Checked (Entries String (Slot Node))) :
    Checked (Slot Node) :=
  ((fun node required => ⟨required, node⟩) <$> Node.ofChecked options properties
    <*> options.checkRequired).refusing (options.unknown (options.known ["required"]))

/-- The name of a nested property. -/
def Property.checkName (key : Value) : Checked String :=
  (key.checkText.within "[key]").within key.pathPart

mutual

/-- Read a property from a dictionary of options. -/
def Property.ofValue : Value → Checked (Slot Node)
  | .dict options => Slot.ofChecked options (Options.properties options)
  | _ => .fault (.notRecord "Property")

/-- Read the option that holds the properties. -/
def Options.properties : List (Value × Value) → Checked (List (String × Slot Node))
  | [] => .valid []
  | (name, v) :: rest =>
    if name == .str "properties" then (Property.ofDictionary v).within "properties"
    else Options.properties rest

/-- Read properties from a dictionary by name. -/
def Property.ofDictionary : Value → Checked (List (String × Slot Node))
  | .dict entries => Entries.ofList <$> Property.ofEntries entries
  | _ => .fault .notDictionary

/-- Read properties from the entries of a dictionary. -/
def Property.ofEntries : List (Value × Value) → Checked (List (String × Slot Node))
  | [] => .valid []
  | (key, v) :: rest =>
    (fun name property more => (name, property) :: more) <$> Property.checkName key
      <*> (Property.ofValue v).within key.pathPart <*> Property.ofEntries rest

end

/-- Read a node that may have the options of its kind besides. -/
def Node.ofOptions (options : Options) : Checked Node :=
  Node.ofChecked options (Options.properties options)

/-- Read a plain node. -/
def Node.plain (options : Options) : Checked Node :=
  (Node.ofOptions options).refusing (options.unknown (options.known []))

/-- Read a property. -/
def Property.ofOptions (options : Options) : Checked Property :=
  Slot.ofChecked options (Options.properties options)

/-- Read a request body. -/
def RequestBody.ofOptions (options : Options) : Checked RequestBody :=
  Slot.ofChecked options (Options.properties options)

/-- Read a response. -/
def Response.ofOptions (options : Options) : Checked Response :=
  Node.plain options

/-- Read a component. -/
def Component.ofOptions (options : Options) : Checked Component :=
  ((fun node name => ⟨name, node⟩) <$> Node.ofOptions options
    <*> options.mandatory "name" Value.checkShown).refusing
      (options.unknown (options.known ["name"]))

/-- Read a parameter; it is part of the query unless the options say where. -/
def Parameter.ofOptions (options : Options) : Checked Parameter :=
  ((fun node name location required => ⟨name, location, required, node⟩)
    <$> Node.ofOptions options
    <*> options.mandatory "name" Value.checkShown
    <*> options.optional (options.spelling "in" "in_") "query" Value.checkShown
    <*> options.checkRequired).refusing
      (options.unknown (options.known ["name", options.spelling "in" "in_", "required"]))

end ApiContract
