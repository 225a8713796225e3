import ApiContract.Value.Display

/-!
# Types of a schema

A declaration may name a type by a tag, by a built-in type, by a text of its
own, or leave it out; a list of types is a union.  `Value.normalized?` brings
all spellings to one, and `Shape.of` says what a node of a given type is.
-/

namespace ApiContract

/-- The type of a node: left out, named by a text, or one of several. -/
inductive TypeExpr where
  | unset
  | named (tag : String)
  | union (members : List Value)
  deriving DecidableEq

/-- The tag of a built-in type that has one. -/
def Builtin.tag? : Builtin → Option TypeTag
  | .bool => some .boolean
  | .int | .float => some .number
  | .str => some .string
  | .dict => some .object
  | .list => some .array
  | .bytes | .tuple | .set | .object => none

/-- The one spelling of a type: null and lists stay as they are, all else is a
text.  There is none for a value that cannot be displayed. -/
def Value.normalized? : Value → Option Value
  | .null => some .null
  | .list members => some (.list members)
  | .tag t => some (.str t.text)
  | .builtin b =>
    match b.tag? with
    | some t => some (.str t.text)
    | none => (Value.builtin b).display?.map .str
  | v => v.displayed?

namespace TypeExpr

/-- The type that a value names.  A value that is neither a text nor a list names
none. -/
def ofValue : Value → TypeExpr
  | .str s => .named s
  | .unpaired codes => .named (Text.quotedCodes codes)
  | .tag t => .named t.text
  | .list members => .union members
  | _ => .unset

/-- The value that a type is kept as. -/
def toValue : TypeExpr → Value
  | .unset => .null
  | .named s => .str s
  | .union members => .list members

theorem ofValue_toValue (t : TypeExpr) : ofValue t.toValue = t := by
  cases t <;> rfl

end TypeExpr

/-- What a node is, and so how it is compiled. -/
inductive Shape where
  | reference | array | union | object | scalar
  deriving DecidableEq

namespace Shape

/-- The name of a shape. -/
def name : Shape → String
  | .reference => "reference"
  | .array => "array"
  | .union => "union"
  | .object => "object"
  | .scalar => "scalar"

/-- Whether a text is there and not empty. -/
def isNamed : Option String → Bool
  | some s => !s.isEmpty
  | none => false

/-- The shape that goes by the type alone. -/
def ofType : TypeExpr → Shape
  | .named tag => if tag = "array" then .array else if tag = "object" then .object else .scalar
  | .union _ => .union
  | .unset => .scalar

/-- Whether a type with its element and reference refers to a component: by a
named reference, or as an object of a named element. -/
def refers (type : TypeExpr) (element reference : Option String) : Bool :=
  isNamed reference || (type == .named "object" && isNamed element)

/-- The shape of a node: what refers to a component is a reference; the rest
goes by the type. -/
def of (type : TypeExpr) (element reference : Option String) : Shape :=
  if refers type element reference then .reference else ofType type

/-- A type alone is never a reference. -/
theorem ofType_ne_reference (type : TypeExpr) : ofType type ≠ .reference := by
  cases type with
  | unset | union => simp [ofType]
  | named tag =>
    simp only [ofType]
    by_cases h : tag = "array" <;> by_cases k : tag = "object" <;> simp [h, k]

theorem of_eq_reference_iff (type : TypeExpr) (element reference : Option String) :
    of type element reference = .reference ↔ refers type element reference = true := by
  unfold of
  split
  · simp_all
  · simp_all [ofType_ne_reference]

end Shape

end ApiContract
