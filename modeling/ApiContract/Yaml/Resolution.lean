/-!
# Texts that read back as something else

A plain scalar is read back by its form.  Some forms are those of booleans,
null, numbers, times, and two marks; a text of such a form has to be quoted to
stay a text.
-/

namespace ApiContract.Yaml

/-- The names of the booleans. -/
def booleanNames : List (List Char) :=
  ["yes", "Yes", "YES", "no", "No", "NO", "true", "True", "TRUE", "false", "False", "FALSE",
    "on", "On", "ON", "off", "Off", "OFF"].map String.toList

/-- The names of null, the empty text among them. -/
def nullNames : List (List Char) :=
  ["", "~", "null", "Null", "NULL"].map String.toList

/-- The marks that merge a mapping and stand for its value. -/
def marks : List (List Char) :=
  ["<<", "="].map String.toList

/-- A number without its sign. -/
def dropSign : List Char → List Char
  | c :: rest => if c == '-' || c == '+' then rest else c :: rest
  | [] => []

/-- Whether a text has characters, all of them of a class. -/
def isRun (p : Char → Bool) (cs : List Char) : Bool :=
  !cs.isEmpty && cs.all p

/-- A digit, or an underscore among digits. -/
def isSpacedDigit (c : Char) : Bool :=
  c.isDigit || c == '_'

/-- A digit in base sixteen, or an underscore among them. -/
def isSpacedHexDigit (c : Char) : Bool :=
  isSpacedDigit c || ('a' ≤ c && c ≤ 'f') || ('A' ≤ c && c ≤ 'F')

/-- Digits and underscores that start with a digit, and what follows them. -/
def splitDigits? : List Char → Option (List Char × List Char)
  | c :: rest => if c.isDigit then some ((c :: rest).span isSpacedDigit) else none
  | [] => none

/-- What follows the groups of a number in base sixty: each a colon and one
digit, or a colon and two of which the first is below six. -/
def dropSixties : List Char → List Char
  | ':' :: a :: b :: rest =>
    if '0' ≤ a && a ≤ '5' && b.isDigit then dropSixties rest
    else if a.isDigit then dropSixties (b :: rest)
    else ':' :: a :: b :: rest
  | [':', a] => if a.isDigit then [] else [':', a]
  | cs => cs

/-- What follows the groups of a number in base sixty, if there are any. -/
def dropSixties? (cs : List Char) : Option (List Char) :=
  let rest := dropSixties cs
  if rest.length < cs.length then some rest else none

/-- Whether a text without its sign is a decimal number, in one part or in base
sixty. -/
def isDecimalForm (cs : List Char) : Bool :=
  match splitDigits? cs with
  | some (digits, rest) =>
    digits.head? != some '0' && (rest.isEmpty || (dropSixties? rest == some []))
  | none => false

/-- Whether a text has the form of a whole number. -/
def isIntForm (cs : List Char) : Bool :=
  match dropSign cs with
  | ['0'] => true
  | '0' :: 'b' :: rest => isRun (fun c => c == '0' || c == '1' || c == '_') rest
  | '0' :: 'x' :: rest => isRun isSpacedHexDigit rest
  | '0' :: rest => isRun (fun c => ('0' ≤ c && c ≤ '7') || c == '_') rest
  | cs => isDecimalForm cs

/-- Whether a text is empty or an exponent: `e`, a sign and digits. -/
def isExponentForm : List Char → Bool
  | [] => true
  | e :: sign :: digits =>
    (e == 'e' || e == 'E') && (sign == '-' || sign == '+') && isRun Char.isDigit digits
  | _ => false

/-- Whether a text, a point at its start, is a fraction with an exponent. -/
def isFractionForm : List Char → Bool
  | '.' :: rest => isExponentForm (rest.dropWhile isSpacedDigit)
  | _ => false

/-- Whether a text, a point at its start, is a fraction without an exponent. -/
def isPlainFractionForm : List Char → Bool
  | '.' :: rest => rest.all isSpacedDigit
  | _ => false

/-- Whether a text that starts with a digit is a number with a fraction. -/
def isPointForm (cs : List Char) : Bool :=
  match splitDigits? cs with
  | some (_, rest) => isFractionForm rest || (dropSixties? rest).any isPlainFractionForm
  | none => false

/-- Whether a text, a point at its start, is a number: a digit comes first. -/
def isBareFraction : List Char → Bool
  | '.' :: c :: rest => c.isDigit && isFractionForm ('.' :: c :: rest)
  | _ => false

/-- Whether a text has the form of a number with a fraction. -/
def isFloatForm (cs : List Char) : Bool :=
  isPointForm (dropSign cs) || isBareFraction cs
    || ([".inf", ".Inf", ".INF"].map String.toList).contains (dropSign cs)
    || ([".nan", ".NaN", ".NAN"].map String.toList).contains cs

/-- What follows a character at the start of a text. -/
def afterChar? (c : Char) : List Char → Option (List Char)
  | d :: rest => if d == c then some rest else none
  | [] => none

/-- What follows a number of digits at the start of a text. -/
def afterDigits? : Nat → List Char → Option (List Char)
  | 0, cs => some cs
  | _ + 1, [] => none
  | n + 1, c :: rest => if c.isDigit then afterDigits? n rest else none

/-- What follows one or two digits at the start of a text. -/
def afterShort? (cs : List Char) : Option (List Char) :=
  (afterDigits? 2 cs).orElse fun _ => afterDigits? 1 cs

/-- What follows the start of a time: `T`, or blanks. -/
def afterTimeMark? : List Char → Option (List Char)
  | c :: rest =>
    if c == 'T' || c == 't' then some rest
    else if c == ' ' || c == '\t' then some (rest.dropWhile fun d => d == ' ' || d == '\t')
    else none
  | [] => none

/-- What follows a fraction of digits, or the text itself. -/
def dropFraction : List Char → List Char
  | '.' :: rest => rest.dropWhile Char.isDigit
  | cs => cs

/-- Whether a text is empty, or names a time zone after blanks. -/
def isZoneForm (cs : List Char) : Bool :=
  cs.isEmpty ||
    match cs.dropWhile fun c => c == ' ' || c == '\t' with
    | ['Z'] => true
    | c :: rest =>
      (c == '-' || c == '+') &&
        (afterShort? rest).any fun rest =>
          rest.isEmpty || ((afterChar? ':' rest).bind (afterDigits? 2)) == some []
    | [] => false

/-- What follows a date whose month and day have one or two digits. -/
def afterDate? (cs : List Char) : Option (List Char) := do
  let cs ← afterDigits? 4 cs
  let cs ← afterChar? '-' cs
  let cs ← afterShort? cs
  let cs ← afterChar? '-' cs
  afterShort? cs

/-- What follows a time whose hour has one or two digits. -/
def afterTime? (cs : List Char) : Option (List Char) := do
  let cs ← afterShort? cs
  let cs ← afterChar? ':' cs
  let cs ← afterDigits? 2 cs
  let cs ← afterChar? ':' cs
  afterDigits? 2 cs

/-- Whether a text is a date of four, two and two digits. -/
def isDateForm (cs : List Char) : Bool :=
  cs.length == 10 && afterDate? cs == some []

/-- Whether a text is a date and a time. -/
def isMomentForm (cs : List Char) : Bool :=
  ((afterDate? cs).bind afterTimeMark?).bind afterTime? |>.any fun rest =>
    isZoneForm (dropFraction rest)

/-- Whether a plain scalar with this text reads back as something else. -/
def readsAsOther (cs : List Char) : Bool :=
  booleanNames.contains cs || nullNames.contains cs || marks.contains cs || isIntForm cs
    || isFloatForm cs || isDateForm cs || isMomentForm cs

example : readsAsOther "1:30".toList = true ∧ readsAsOther "1:60".toList = false := by decide

example : readsAsOther "1.5e3".toList = false ∧ readsAsOther "1.5e+3".toList = true := by decide

example : readsAsOther "2001-12-14t21:59:43.10-05:00".toList = true := by decide

end ApiContract.Yaml
