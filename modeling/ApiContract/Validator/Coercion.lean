import ApiContract.Checked
import ApiContract.Number.Reading
import ApiContract.Schema.Type

/-!
# Coercion of single values

How a given value is taken for a text, a whole number, a double or a boolean.
A value that is none is refused with a cause; a value that is one already is
taken as it is, so coercing twice changes nothing.
-/

namespace ApiContract

/-- Why given data are refused at some place. -/
inductive DataFault where
  | missing
  | notString
  | unreadableText
  | notInteger
  | unreadableInteger
  | fractional
  | infinite
  | tooLarge
  | notNumber
  | unreadableNumber
  | notBoolean
  | unreadableBoolean
  | notList
  | notDictionary
  | notRecord (model : String)
  deriving DecidableEq

/-- The message of a fault in data. -/
def DataFault.message : DataFault → String
  | .missing => "Field required"
  | .notString => "Input should be a valid string"
  | .unreadableText =>
    "Input should be a valid string, unable to parse raw data as a unicode string"
  | .notInteger => "Input should be a valid integer"
  | .unreadableInteger => "Input should be a valid integer, unable to parse string as an integer"
  | .fractional => "Input should be a valid integer, got a number with a fractional part"
  | .infinite => "Input should be a finite number"
  | .tooLarge => "Unable to parse input string as an integer, exceeded maximum size"
  | .notNumber => "Input should be a valid number"
  | .unreadableNumber => "Input should be a valid number, unable to parse string as a number"
  | .notBoolean => "Input should be a valid boolean"
  | .unreadableBoolean => "Input should be a valid boolean, unable to interpret input"
  | .notList => "Input should be a valid list"
  | .notDictionary => "Input should be a valid dictionary"
  | .notRecord model => "Input should be a valid dictionary or instance of " ++ model

/-- What numbers are taken for: whole numbers in requests, doubles in
responses. -/
inductive NumberKind where
  | integer | double
  deriving DecidableEq

namespace Value

/-- The fault in data of a double that is not taken for a whole number. -/
def wholeFault : Binary64.WholeFault → DataFault
  | .infinite => .infinite
  | .fractional => .fractional
  | .tooLarge => .tooLarge

/-- Take a value for a whole number. -/
def toInteger : Value → Except DataFault Int
  | .bool b => .ok b.toNat
  | .int n => .ok n
  | .float x => x.toWhole.mapError wholeFault
  | .unpaired _ => .error .unreadableText
  | v =>
    match v.text? with
    | none => .error .notInteger
    | some s =>
      match Number.readInt s with
      | .ok n => .ok n
      | .error .unreadable => .error .unreadableInteger
      | .error .tooLong => .error .tooLarge

/-- Take a value for a double. -/
def toDouble : Value → Except DataFault Binary64
  | .bool b => .ok (Binary64.ofInt b.toNat)
  | .int n =>
    match Binary64.ofInt? n with
    | some x => .ok x
    | none => .error .notNumber
  | .float x => .ok x
  | .unpaired _ => .error .unreadableText
  | v =>
    match v.text? with
    | none => .error .notNumber
    | some s =>
      match Number.readBinary64? s with
      | some x => .ok x
      | none => .error .unreadableNumber

/-- Take a value for a boolean. -/
def toBoolean (v : Value) : Except DataFault Bool :=
  match v.readFlag with
  | .ok b => .ok b
  | .error .unreadableBoolean => .error .unreadableBoolean
  | .error .unreadableText => .error .unreadableText
  | .error _ => .error .notBoolean

/-- Take a value for a text, which may be one that is none of characters. -/
def toText : Value → Except DataFault Value
  | .unpaired codes => .ok (.unpaired codes)
  | v =>
    match v.text? with
    | some s => .ok (.str s)
    | none => .error .notString

end Value

/-- What a field without structure holds. -/
inductive ScalarKind where
  | number | boolean | text
  deriving DecidableEq

/-- The scalar that a type names: whatever is neither a number nor a boolean is a
text. -/
def ScalarKind.of (type : TypeExpr) : ScalarKind :=
  if type = .named "number" then .number else if type = .named "boolean" then .boolean else .text

/-- Take a value for a scalar. -/
def ScalarKind.coerce (numbers : NumberKind) (v : Value) : ScalarKind → Except DataFault Value
  | .number =>
    match numbers with
    | .integer => v.toInteger.map .int
    | .double => v.toDouble.map .float
  | .boolean => v.toBoolean.map .bool
  | .text => v.toText

end ApiContract
