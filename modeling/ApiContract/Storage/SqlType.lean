import ApiContract.Failure
import ApiContract.Text.Blank
import ApiContract.Text.Digit
import ApiContract.Text.LetterCase
import ApiContract.Text.Start

/-!
# Column types

The type of a storage column is a text in the words of a database.  It stands
for a number, a text, a boolean, a date and time, or an object; each of these
accepts a list of names, and numbers, texts and times accept some names with a
part in parentheses.  Blanks around the text and the case of its letters do not
count.
-/

namespace ApiContract

/-- What a column holds. -/
inductive ColumnKind where
  | number | string | boolean | dateTime | object
  deriving DecidableEq

/-- The type that a column's property has in a schema. -/
def ColumnKind.text : ColumnKind → String
  | .number => "number"
  | .string => "string"
  | .boolean => "boolean"
  | .dateTime => "date-time"
  | .object => "object"

namespace SqlType

/-- Whether a text is empty, or in parentheses and on one line. -/
def isSuffix : List Char → Bool
  | [] => true
  | '(' :: rest => rest.getLast? == some ')' && !rest.dropLast.contains '\n'
  | _ => false

/-- Whether a text is one of some names, followed by nothing or by a part in
parentheses. -/
def isSized (names : List String) (cs : List Char) : Bool :=
  names.any fun name => (Text.after? name.toList cs).any isSuffix

/-- A text without a number of decimal digits in parentheses at its start. -/
def dropPrecision (cs : List Char) : List Char :=
  match Text.after? ['('] cs with
  | none => cs
  | some rest =>
    match rest.span Text.isDecimal with
    | (_ :: _, ')' :: rest) => rest
    | _ => cs

/-- Whether a text names a time with or without a time zone. -/
def isZoned (cs : List Char) : Bool :=
  (Text.after? "timestamp".toList cs).any fun rest =>
    let rest := dropPrecision rest
    rest == " with time zone".toList || rest == " without time zone".toList

/-- Whether a type is one of numbers. -/
def isNumber (cs : List Char) : Bool :=
  ["integer", "bigint", "smallint", "double precision", "real"].any (·.toList == cs)
    || isSized ["numeric", "decimal"] cs

/-- Whether a type is one of texts. -/
def isString (cs : List Char) : Bool :=
  ["string", "text", "uuid"].any (·.toList == cs)
    || isSized ["character varying", "varchar", "character", "char"] cs

/-- Whether a type is the one of booleans. -/
def isBoolean (cs : List Char) : Bool :=
  cs == "boolean".toList

/-- Whether a type is one of dates and times. -/
def isDateTime (cs : List Char) : Bool :=
  ["date", "timestamp", "timestamptz"].any (·.toList == cs) || isZoned cs

/-- Whether a type is one of objects. -/
def isObject (cs : List Char) : Bool :=
  ["json", "jsonb"].any (·.toList == cs)

/-- A type without blanks around it and in small letters. -/
def normalized (sqlType : String) : List Char :=
  Text.lowerFrom [] (Text.stripBy Text.isBlank sqlType.toList)

/-- What a column of a type holds, the type brought to small letters. -/
def kindOf? (cs : List Char) : Option ColumnKind :=
  if isNumber cs then some .number
  else if isString cs then some .string
  else if isBoolean cs then some .boolean
  else if isDateTime cs then some .dateTime
  else if isObject cs then some .object
  else none

/-- What a column of a type holds. -/
def kind (sqlType : String) : Except Failure ColumnKind :=
  match kindOf? (normalized sqlType) with
  | some kind => .ok kind
  | none => .error (.unknownColumnType sqlType none)

end SqlType

end ApiContract
