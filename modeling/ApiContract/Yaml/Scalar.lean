import ApiContract.Text.Quoted
import ApiContract.Yaml.Resolution

/-!
# Scalars

A scalar is written plain if its characters allow it and it reads back as what it
is; else between single quotes if its characters allow that; else between double
quotes, where every character can be written.  A scalar that may be folded goes
on in a new line once a line is longer than eighty columns; a line is broken at
a single space, and between double quotes at any space or after an escape.
-/

namespace ApiContract.Yaml

/-- The columns after which a line is broken. -/
def lineWidth : Nat := 80

/-- Characters that end a line. -/
def isBreak (c : Char) : Bool :=
  c == '\n' || c == '\x85' || c == '\u2028' || c == '\u2029'

/-- Characters that set off an indicator. -/
def isBlank (c : Char) : Bool :=
  isBreak c || c == '\x00' || c == ' ' || c == '\t' || c == '\r'

/-- Characters that can only be written as escapes. -/
def isSpecial (c : Char) : Bool :=
  let n := c.toNat
  !(c == '\n' || (0x20 ≤ n && n ≤ 0x7E) || n == 0x85 || (0xA0 ≤ n && n ≤ 0xD7FF)
    || (0xE000 ≤ n && n ≤ 0xFFFD && n != 0xFEFF) || (0x10000 ≤ n && n < 0x10FFFF))

/-- Whether a text is empty or starts with a blank. -/
def startsBlank : List Char → Bool
  | [] => true
  | c :: _ => isBlank c

/-- Whether the first character of a text starts something other than a plain
scalar. -/
def startsIndicator : List Char → Bool
  | [] => false
  | c :: rest =>
    "#,[]\x7b\x7d&*!|>'\"%@\x60".toList.contains c
      || ((c == '?' || c == ':' || c == '-') && startsBlank rest)

/-- Whether a text holds, after its first character, the end of a key or the
start of a comment.  `before` is the character before the text. -/
def holdsIndicator (before : Char) : List Char → Bool
  | [] => false
  | c :: rest =>
    (c == ':' && startsBlank rest) || (c == '#' && isBlank before) || holdsIndicator c rest

/-- Whether a text starts like the start or the end of a document. -/
def startsMark : List Char → Bool
  | a :: b :: c :: _ => a == b && b == c && (a == '-' || a == '.')
  | _ => false

/-- Whether a character of the one class stands right before one of the other. -/
def holdsPair (p q : Char → Bool) : List Char → Bool
  | c :: d :: rest => (p c && q d) || holdsPair p q (d :: rest)
  | _ => false

/-- Whether a space or a break is at an end of a text. -/
def hasLooseEnd (cs : List Char) : Bool :=
  let isLoose (c : Char) := c == ' ' || isBreak c
  cs.head?.any isLoose || cs.getLast?.any isLoose

/-- Whether the characters of a text allow a plain scalar. -/
def allowsPlain (cs : List Char) : Bool :=
  !(hasLooseEnd cs || cs.any isBreak || cs.any isSpecial || startsMark cs || startsIndicator cs
    || match cs with
      | [] => false
      | c :: rest => holdsIndicator c rest)

/-- Whether the characters of a text allow single quotes. -/
def allowsSingle (cs : List Char) : Bool :=
  !(cs.any isSpecial || holdsPair isBreak (· == ' ') cs || holdsPair (· == ' ') isBreak cs)

/-- A scalar: its code points, whether it is a text or what it reads back as by its
form, and the width of the tag that says so. -/
structure Scalar where
  codes : List Nat
  isText : Bool
  tagWidth : Nat

/-- The characters of a scalar.  Half of a pair counts as the null character, which
can only be written as an escape either. -/
def Scalar.text (s : Scalar) : List Char :=
  s.codes.map Char.ofNat

/-- How a scalar is written. -/
inductive Style where
  | plain | single | double
  deriving DecidableEq

/-- How a scalar is written: in the first way that is possible. -/
def Scalar.style (s : Scalar) : Style :=
  if !(s.isText && readsAsOther s.text) && allowsPlain s.text then .plain
  else if allowsSingle s.text then .single
  else .double

/-- Whether a scalar may be a key that is followed by its value on the same
line. -/
def Scalar.isSimpleKey (s : Scalar) : Bool :=
  !s.text.isEmpty && !s.text.any isBreak && s.text.length + s.tagWidth < 128

/-- Where a scalar is written: whether its lines may be broken, and the column at
which further lines start. -/
structure Place where
  folds : Bool
  indent : Nat

/-- Spaces. -/
def spaces (n : Nat) : List Char :=
  List.replicate n ' '

/-- A new line up to the column at which further lines start. -/
def Place.newline (p : Place) : List Char :=
  '\n' :: spaces p.indent

/-! ### Plain scalars -/

/-- Spaces before a character, or a new line instead of a single one, and the
column after them. -/
def Place.gap (p : Place) (column count : Nat) : List Char × Nat :=
  if p.folds && count == 1 && column > lineWidth then (p.newline, p.indent)
  else (spaces count, column + count)

/-- Write a plain scalar, from a column on and after a number of spaces that are
still to be written. -/
def Place.plain (p : Place) (column count : Nat) : List Char → List Char
  | [] => spaces count
  | c :: rest =>
    if c == ' ' then plain p column (count + 1) rest
    else
      let (gap, column) := p.gap column count
      gap ++ c :: plain p (column + 1) 0 rest

/-! ### Single quotes -/

/-- What was read last inside single quotes and is still to be written. -/
inductive Pending where
  /-- Nothing at all has been read. -/
  | start
  | nothing
  /-- A number of spaces, with or without a character before them. -/
  | spaces (count : Nat) (leading : Bool)
  /-- The indentation after a break. -/
  | indent

/-- Write what is pending before a character, and the column after it. -/
def Place.release (p : Place) (column : Nat) : Pending → List Char × Nat
  | .start | .nothing => ([], column)
  | .spaces count leading =>
    if leading then (Yaml.spaces count, column + count) else p.gap column count
  | .indent => (Yaml.spaces p.indent, p.indent)

/-- Write a break: the first of a run takes a line of its own besides. -/
def breakText (first : Bool) (c : Char) : List Char :=
  if first && c == '\n' then ['\n', '\n'] else [c]

/-- Write what stands between single quotes, from a column on. -/
def Place.single (p : Place) (column : Nat) (pending : Pending) : List Char → List Char
  | [] =>
    match pending with
    | .start | .nothing => []
    | .spaces count _ => Yaml.spaces count
    | .indent => Yaml.spaces p.indent
  | c :: rest =>
    if c == ' ' then
      match pending with
      | .start => single p column (.spaces 1 true) rest
      | .nothing => single p column (.spaces 1 false) rest
      | .spaces count leading => single p column (.spaces (count + 1) leading) rest
      | .indent => Yaml.spaces p.indent ++ single p p.indent (.spaces 1 false) rest
    else if isBreak c then
      match pending with
      | .indent => breakText false c ++ single p 0 .indent rest
      | pending => (p.release column pending).1 ++ breakText true c ++ single p 0 .indent rest
    else
      let (gap, column) := p.release column pending
      if c == '\'' then gap ++ '\'' :: '\'' :: single p (column + 2) .nothing rest
      else gap ++ c :: single p (column + 1) .nothing rest

/-! ### Double quotes -/

/-- The letter of an escape that has one. -/
def escapeLetter? (c : Char) : Option Char :=
  [('\x00', '0'), ('\x07', 'a'), ('\x08', 'b'), ('\t', 't'), ('\n', 'n'), ('\x0b', 'v'),
    ('\x0c', 'f'), ('\r', 'r'), ('\x1b', 'e'), ('\x22', '\x22'), ('\\', '\\'), ('\x85', 'N'),
    ('\u2028', 'L'), ('\u2029', 'P')].lookup c

/-- The escape of a code point by its digits in base sixteen. -/
def escapeCode (n : Nat) : List Char :=
  if n < 0x100 then '\\' :: 'x' :: (Text.hexText 2 n).map Char.toUpper
  else if n < 0x10000 then '\\' :: 'u' :: (Text.hexText 4 n).map Char.toUpper
  else '\\' :: 'U' :: (Text.hexText 8 n).map Char.toUpper

/-- The escape of a code point between double quotes, if it needs one. -/
def escape? (n : Nat) : Option (List Char) :=
  if Text.isHalf n then some (escapeCode n)
  else
    let c := Char.ofNat n
    match escapeLetter? c with
    | some letter => some ['\\', letter]
    | none => if isSpecial c || 0x10000 ≤ n then some (escapeCode n) else none

/-- The code point of a space. -/
def spaceCode : Nat := ' '.toNat

/-- A broken line between double quotes, and the column after it.  A space that
comes next is held by a backslash. -/
def Place.fold (p : Place) (next : Option Nat) : List Char × Nat :=
  if next == some spaceCode then ('\\' :: p.newline ++ ['\\'], p.indent + 1)
  else ('\\' :: p.newline, p.indent)

/-- Whether a line is broken between double quotes after some columns: not at the
first character, nor at the last. -/
def Place.foldsAt (p : Place) (column : Nat) (first : Bool) (rest : List Nat) : Bool :=
  p.folds && !first && !rest.isEmpty && column > lineWidth

/-- Write what stands between double quotes.  `column` is the column after the
last escape or new line, and `width` the number of characters since. -/
def Place.double (p : Place) (first : Bool) (column width : Nat) : List Nat → List Char
  | [] => []
  | n :: rest =>
    match escape? n with
    | some escape =>
      let column := column + width + escape.length
      if p.foldsAt (column - 1) first rest then
        let (fold, column) := p.fold rest.head?
        escape ++ fold ++ double p false column 0 rest
      else escape ++ double p false column 0 rest
    | none =>
      if (n == spaceCode || width == 0) && p.foldsAt (column + width) first rest then
        let (fold, column) := p.fold (some n)
        fold ++ Char.ofNat n :: double p false column 1 rest
      else Char.ofNat n :: double p false column (width + 1) rest

/-! ### Scalars -/

/-- Write a scalar at a place, from a column on. -/
def Scalar.write (s : Scalar) (p : Place) (column : Nat) : List Char :=
  match s.style with
  | .plain => p.plain column 0 s.text
  | .single => '\'' :: p.single (column + 1) .start s.text ++ ['\'']
  | .double => '\x22' :: p.double true (column + 1) 0 s.codes ++ ['\x22']

end ApiContract.Yaml
