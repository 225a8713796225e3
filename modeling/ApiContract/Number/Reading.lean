import ApiContract.Number.Binary64
import ApiContract.Text.Blank

/-!
# Numbers written in text

How a text is read as a whole number or as a double where a number is asked
for.

A whole number has digits, with single underscores allowed between two of them;
it may have white space around it, one sign, zeros in front and a point with
zeros at its end.  What stands after the zeros in front may have a minus of its
own.  A double has a fraction and an exponent, or is an infinity or not a number
by name.  It may either have white space around it or underscores in it, which
only have to be inside the text and apart from each other.
-/

namespace ApiContract.Number

/-- The most digits a whole number may have when it is written or read as text. -/
def digitLimit : Nat := 4300

/-- The value of one of the digits `0` to `9`. -/
def digitValue (c : Char) : Nat :=
  c.toNat - '0'.toNat

/-- The number written by digits, first to last. -/
def ofDigits (cs : List Char) : Nat :=
  cs.foldl (fun n c => 10 * n + digitValue c) 0

/-- The sign of a number text, `true` for minus, and what follows it. -/
def splitSign : List Char → Bool × List Char
  | '-' :: rest => (true, rest)
  | '+' :: rest => (false, rest)
  | cs => (false, cs)

/-- Whether two underscores stand next to each other. -/
def hasDoubleUnderscore : List Char → Bool
  | '_' :: '_' :: _ => true
  | _ :: rest => hasDoubleUnderscore rest
  | [] => false

/-- A text without its underscores, if none of them is first, last or next to
another. -/
def dropUnderscores? (cs : List Char) : Option (List Char) :=
  if cs.head? == some '_' || cs.getLast? == some '_' || hasDoubleUnderscore cs then none
  else some (cs.filter (· != '_'))

/-- What stands after zeros and underscores of which `last` is the one before: the
rest from a digit or a minus on.  Before a point and at the end of the text the
last of them is kept. -/
def afterZeros? (last : Char) : List Char → Option (List Char)
  | [] => some [last]
  | c :: rest =>
    if c == '0' || c == '_' then afterZeros? c rest
    else if c.isDigit || c == '-' then some (c :: rest)
    else if c == '.' then some (last :: c :: rest)
    else none

/-- A text that starts with a digit, without the zeros in front. -/
def dropZeros? : List Char → Option (List Char)
  | [] => none
  | c :: rest =>
    if c == '0' then afterZeros? c rest else if c.isDigit then some (c :: rest) else none

/-- A text without its point and what follows it, which has to be zeros. -/
def dropZeroFraction? (cs : List Char) : Option (List Char) :=
  match cs.span (· != '.') with
  | (whole, []) => some whole
  | (whole, _ :: zeros) =>
    if zeros.isEmpty || !zeros.all (· == '0') then none else some whole

/-- Digits without a zero in front of others, and no more than can be read. -/
def strictDigits? (cs : List Char) : Option Nat :=
  if cs.isEmpty || !cs.all Char.isDigit || cs.length > digitLimit then none
  else if cs.head? == some '0' && cs.length > 1 then none
  else some (ofDigits cs)

/-- A minus and digits, or digits. -/
def strictInt? : List Char → Option Int
  | '-' :: digits => (strictDigits? digits).map fun n => -(n : Int)
  | digits => (strictDigits? digits).map fun n => (n : Int)

/-- What is left of the text of a whole number without a sign when it is brought
to digits. -/
def bareDigits? (cs : List Char) : Option (List Char) :=
  ((dropZeros? cs).bind dropZeroFraction?).bind dropUnderscores?

/-- Whether a text starts with more digits than can be read. -/
def startsTooLong (cs : List Char) : Bool :=
  let digits := (if cs.head? == some '-' then cs.drop 1 else cs).takeWhile Char.isDigit
  digits.head? != some '0' && digits.length > digitLimit

/-- Why a text is not read as a whole number. -/
inductive IntFault where
  | unreadable
  | tooLong
  deriving DecidableEq

/-- Read the text of a whole number, white space taken off. -/
def readSigned? : List Char → Option Int
  | '+' :: rest => (bareDigits? rest).bind strictInt?
  | '-' :: rest => (bareDigits? rest).bind fun digits => strictInt? ('-' :: digits)
  | rest => (bareDigits? rest).bind strictInt?

/-- Read a whole number. -/
def readInt (s : String) : Except IntFault Int :=
  if startsTooLong s.toList then .error .tooLong
  else
    match readSigned? (Text.stripBy Text.isWhiteSpace s.toList) with
    | some n => .ok n
    | none => .error .unreadable

/-- Digits, if there are any and nothing else. -/
def exponentDigits? (cs : List Char) : Option Nat :=
  if cs.isEmpty || !cs.all Char.isDigit then none else some (ofDigits cs)

/-- The exponent of a number text: nothing, or `e`, a sign and digits. -/
def readExponent? : List Char → Option Int
  | [] => some 0
  | e :: rest =>
    if e == 'e' || e == 'E' then
      let (negative, digits) := splitSign rest
      (exponentDigits? digits).map fun n => if negative then -(n : Int) else n
    else none

/-- A double without a sign: digits, a point, digits and an exponent, with at
least one digit before the exponent. -/
def readMagnitude? (negative : Bool) (cs : List Char) : Option Binary64 :=
  let (whole, rest) := cs.span Char.isDigit
  let (fraction, rest) :=
    match rest with
    | '.' :: rest => rest.span Char.isDigit
    | _ => ([], rest)
  if whole.isEmpty && fraction.isEmpty then none
  else
    (readExponent? rest).map fun exponent =>
      Binary64.ofDecimal negative (ofDigits (whole ++ fraction)) (exponent - fraction.length)

/-- Read a double with nothing around it and no underscores in it. -/
def readPlain? (cs : List Char) : Option Binary64 :=
  let (negative, body) := splitSign cs
  let name := body.map Char.toLower
  if name == "inf".toList || name == "infinity".toList then some (.infinity negative)
  else if name == "nan".toList then some .nan
  else readMagnitude? negative body

/-- Read a double: with white space around it, or with underscores in it. -/
def readBinary64? (s : String) : Option Binary64 :=
  (readPlain? (Text.stripBy Text.isWhiteSpace s.toList)).orElse fun _ =>
    (dropUnderscores? s.toList).bind readPlain?

example : readSigned? ['0', '_', '_', '5'] = some 5 ∧ readSigned? ['5', '_', '_', '0'] = none := by
  decide +kernel

example :
    readSigned? ['+', '0', '-', '5'] = some (-5) ∧ readSigned? ['-', '0', '-', '5'] = none := by
  decide +kernel

end ApiContract.Number
