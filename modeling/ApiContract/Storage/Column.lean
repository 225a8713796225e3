import ApiContract.Schema.Options
import ApiContract.Storage.SqlType

/-!
# Columns

What a storage layer reports about a column, and the property that it becomes:
an array of what the column holds if the column is an array, though an array of
objects is an object.
-/

namespace ApiContract

/-- A column as a storage layer reports it. -/
structure Column where
  sqlType : String
  array : Bool
  nullable : Bool
  comment : String
  allowable : Option (List Value)
  deriving DecidableEq

namespace Column

/-- Read a column; fields of other names are passed over. -/
def ofOptions (options : Options) : Checked Column :=
  Column.mk
    <$> options.mandatory "sql_type" Value.checkText
    <*> options.optional "array" false Value.checkFlag
    <*> options.optional "nullable" true Value.checkFlag
    <*> options.optional "comment" "" Value.checkText
    <*> options.optional "allowable_values" none Value.checkList?

/-- The type, and the element type, of the property that a column becomes. -/
def types (c : Column) (kind : ColumnKind) : String × Option String :=
  if c.array && kind != .object then ("array", some kind.text) else (kind.text, none)

/-- The facets of the property that a column becomes. -/
def facets (c : Column) : Except Failure Facets :=
  (SqlType.kind c.sqlType).map fun kind =>
    let (type, element) := c.types kind
    ⟨.named type, element, c.comment, none, none, c.allowable, c.nullable, none⟩

/-- The options by which the property that a column becomes is declared. -/
def propertyOptions (c : Column) : Except Failure (Entries String Value) :=
  (SqlType.kind c.sqlType).map fun kind =>
    let (type, element) := c.types kind
    [("description", .str c.comment), ("nullable", .bool c.nullable),
      ("allowable_values", (c.allowable.map .list).getD .null), ("type", .str type)] ++
      (element.map fun e => ("of", .str e)).toList

end Column

/-- An attribute that is backed by another resource. -/
structure Association where
  resource : String
  deriving DecidableEq

namespace Association

/-- Read an association from the name of its resource. -/
def ofValue (resource : Value) : Checked Association :=
  Association.mk <$> resource.checkText.within "resource_name"

/-- The facets of the property that an association becomes: an array of the
resource. -/
def facets (a : Association) : Facets :=
  { Facets.blank with type := .named "array", element := some a.resource }

end Association

end ApiContract
