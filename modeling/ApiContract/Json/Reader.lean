import ApiContract.Number.Reading
import ApiContract.Text.Start
import ApiContract.Text.Units
import ApiContract.Value.Display

/-!
# Reading JSON

A text is read as one value: the grammar is that of JSON, besides the names of
the infinities and of what is not a number.  Numbers with a fraction or an
exponent are doubles, all others whole numbers.  A key that occurs again keeps
its place and takes the later value.

A text that is no JSON is refused for the first fault in it.  Reading goes down
with a bound on the number of steps; as every step takes a character, the length
of the text is enough.  Lists and dictionaries may stand in each other only up to
a depth.
-/

namespace ApiContract.Json

/-- Why a text is refused. -/
inductive Fault where
  | value
  | extraData
  | propertyName
  | colon
  | comma
  | unterminated
  | control
  | escape
  | unicodeEscape
  | byteOrderMark
  | tooManyDigits
  | tooDeep
  deriving DecidableEq

/-- The message of a fault; digits or lists and dictionaries in each other that
are too many are no faults of the grammar and have none. -/
def Fault.message? : Fault → Option String
  | .value => some "Expecting value"
  | .extraData => some "Extra data"
  | .propertyName => some "Expecting property name enclosed in double quotes"
  | .colon => some "Expecting ':' delimiter"
  | .comma => some "Expecting ',' delimiter"
  | .unterminated => some "Unterminated string starting at"
  | .control => some "Invalid control character at"
  | .escape => some "Invalid \\escape"
  | .unicodeEscape => some "Invalid \\uXXXX escape"
  | .byteOrderMark => some "Unexpected UTF-8 BOM (decode using utf-8-sig)"
  | .tooManyDigits | .tooDeep => none

/-- The blanks that may stand between two parts. -/
def isBlank (c : Char) : Bool :=
  c == ' ' || c == '\t' || c == '\n' || c == '\r'

/-- The text after the blanks at its start. -/
def skip (cs : List Char) : List Char :=
  cs.dropWhile isBlank

/-- The value of a digit in base sixteen. -/
def hexValue? (c : Char) : Option Nat :=
  if c.isDigit then some (c.toNat - 0x30)
  else if 'a' ≤ c && c ≤ 'f' then some (c.toNat - 0x57)
  else if 'A' ≤ c && c ≤ 'F' then some (c.toNat - 0x37)
  else none

/-- The number that four digits in base sixteen write. -/
def hexNumber? (a b c d : Char) : Option Nat := do
  let a ← hexValue? a
  let b ← hexValue? b
  let c ← hexValue? c
  let d ← hexValue? d
  return 4096 * a + 256 * b + 16 * c + d

/-- The character that a letter after a backslash stands for. -/
def simpleEscape? (c : Char) : Option Char :=
  if c == '\x22' || c == '\\' || c == '/' then some c
  else if c == 'b' then some '\x08'
  else if c == 'f' then some '\x0c'
  else if c == 'n' then some '\n'
  else if c == 'r' then some '\r'
  else if c == 't' then some '\t'
  else none

/-- One more unit before what a text goes on with. -/
def andThen (n : Nat) : Except Fault (List Nat × List Char) → Except Fault (List Nat × List Char)
  | .ok (units, rest) => .ok (n :: units, rest)
  | .error f => .error f

/-- Read a text after its opening quote: its units, and what follows the closing
quote. -/
def readUnits : List Char → Except Fault (List Nat × List Char)
  | [] => .error .unterminated
  | ['\\'] => .error .unterminated
  | '\\' :: 'u' :: a :: b :: c :: d :: rest =>
    match rest.isEmpty, hexNumber? a b c d with
    | false, some n => andThen n (readUnits rest)
    | _, _ => .error .unicodeEscape
  | '\\' :: 'u' :: _ => .error .unicodeEscape
  | '\\' :: c :: rest =>
    match simpleEscape? c with
    | none => .error .escape
    | some d => andThen d.toNat (readUnits rest)
  | c :: rest =>
    if c == '\x22' then .ok ([], rest)
    else if c.toNat < 0x20 then .error .control
    else andThen c.toNat (readUnits rest)

/-- Read a text after its opening quote, and what follows the closing quote. -/
def readText (cs : List Char) : Except Fault (Value × List Char) :=
  (readUnits cs).map fun r => (Value.ofCodes (Text.joinUnits r.1), r.2)

/-- A number in parts: the digits before the point, those after it, and the
exponent with its sign; the latter two only if they are there. -/
structure Numeral where
  negative : Bool
  whole : List Char
  fraction : List Char
  exponent : Option Int

/-- The digits before the point: a zero, or digits that do not start with one. -/
def splitWhole : List Char → List Char × List Char
  | '0' :: rest => (['0'], rest)
  | cs => cs.span Char.isDigit

/-- The point and the digits after it, if they are there. -/
def splitFraction : List Char → List Char × List Char
  | '.' :: rest =>
    match rest.span Char.isDigit with
    | ([], _) => ([], '.' :: rest)
    | (digits, rest) => (digits, rest)
  | cs => ([], cs)

/-- The exponent, if it is there. -/
def splitExponent : List Char → Option Int × List Char
  | e :: rest =>
    if e == 'e' || e == 'E' then
      let (negative, digits) := Number.splitSign rest
      match digits.span Char.isDigit with
      | ([], _) => (none, e :: rest)
      | (digits, rest) =>
        let n : Int := (Number.ofDigits digits : Nat)
        (some (if negative then -n else n), rest)
    else (none, e :: rest)
  | [] => (none, [])

/-- A number at the start of a text, and what follows it. -/
def splitNumeral? (cs : List Char) : Option (Numeral × List Char) :=
  let (negative, cs) :=
    match cs with
    | '-' :: rest => (true, rest)
    | cs => (false, cs)
  match splitWhole cs with
  | ([], _) => none
  | (whole, rest) =>
    let (fraction, rest) := splitFraction rest
    let (exponent, rest) := splitExponent rest
    some (⟨negative, whole, fraction, exponent⟩, rest)

/-- The value of a number. -/
def Numeral.value (n : Numeral) : Except Fault Value :=
  if n.fraction.isEmpty && n.exponent.isNone then
    if n.whole.length > Number.digitLimit then .error .tooManyDigits
    else
      let m : Int := (Number.ofDigits n.whole : Nat)
      .ok (.int (if n.negative then -m else m))
  else
    .ok (.float (Binary64.ofDecimal n.negative (Number.ofDigits (n.whole ++ n.fraction))
      (n.exponent.getD 0 - n.fraction.length)))

/-- The values that have a name. -/
def names : List (List Char × Value) := [
  ("null".toList, .null), ("true".toList, .bool true), ("false".toList, .bool false),
  ("NaN".toList, .float .nan), ("Infinity".toList, .float (.infinity false)),
  ("-Infinity".toList, .float (.infinity true))]

/-- Read a value by name, or a number. -/
def readScalar (cs : List Char) : Except Fault (Value × List Char) :=
  match names.findSome? fun (name, v) => (Text.after? name cs).map (v, ·) with
  | some found => .ok found
  | none =>
    match splitNumeral? cs with
    | none => .error .value
    | some (n, rest) => n.value.map (·, rest)

/-- How many lists and dictionaries may stand in each other. -/
def depthLimit : Nat := 985

mutual

/-- Read a value at the start of a text, with room for some lists and dictionaries
in each other. -/
def readValue (room : Nat) : Nat → List Char → Except Fault (Value × List Char)
  | 0, _ => .error .value
  | _ + 1, '\x22' :: cs => readText cs
  | steps + 1, '[' :: cs =>
    if room = 0 then .error .tooDeep
    else
      match skip cs with
      | ']' :: rest => .ok (.list [], rest)
      | cs => do
        let (items, rest) ← readItems (room - 1) steps cs
        return (.list items, rest)
  | steps + 1, '\x7b' :: cs =>
    if room = 0 then .error .tooDeep
    else
      match skip cs with
      | '\x7d' :: rest => .ok (.dict [], rest)
      | cs => do
        let (entries, rest) ← readEntries (room - 1) steps cs
        return (Value.dictOf entries, rest)
  | _ + 1, cs => readScalar cs

/-- Read the items of a list that has some, up to the closing bracket. -/
def readItems (room : Nat) : Nat → List Char → Except Fault (List Value × List Char)
  | 0, _ => .error .value
  | steps + 1, cs => do
    let (v, rest) ← readValue room steps cs
    match skip rest with
    | ']' :: rest => return ([v], rest)
    | ',' :: rest => do
      let (vs, rest) ← readItems room steps (skip rest)
      return (v :: vs, rest)
    | _ => throw .comma

/-- Read the entries of a dictionary that has some, up to the closing brace. -/
def readEntries (room : Nat) : Nat → List Char → Except Fault (List (Value × Value) × List Char)
  | 0, _ => .error .value
  | steps + 1, '\x22' :: cs => do
    let (key, rest) ← readText cs
    match skip rest with
    | ':' :: rest => do
      let (v, rest) ← readValue room steps (skip rest)
      match skip rest with
      | '\x7d' :: rest => return ([(key, v)], rest)
      | ',' :: rest => do
        let (es, rest) ← readEntries room steps (skip rest)
        return ((key, v) :: es, rest)
      | _ => throw .comma
    | _ => throw .colon
  | _ + 1, _ => .error .propertyName

end

/-- Read a text as one value. -/
def read (s : String) : Except Fault Value :=
  let cs := s.toList
  if cs.head? == some '\uFEFF' then .error .byteOrderMark
  else do
    let (v, rest) ← readValue depthLimit (cs.length + 1) (skip cs)
    if (skip rest).isEmpty then return v else throw .extraData

end ApiContract.Json
