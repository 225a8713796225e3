import ApiContract.Checked
import ApiContract.Number.Shortest
import ApiContract.Text.Units

/-!
# Writing JSON

A value is written over several lines, two blanks deeper with every list and
dictionary; empty ones stay on one line.  Keys that are not texts are written as
the text of their JSON form.  Types and components have no JSON form, and whole
numbers with too many digits have no text: `fault?` finds the first part of a
value that cannot be written, and `write` writes the values that have none.

Characters beyond ASCII are written as they are, or as escapes where the style
asks for it; a character beyond sixteen bits is then a pair of escapes.  Half of
a pair that stands alone is written as an escape by a style for characters, which
has no other way; a style for code points keeps it.
-/

namespace ApiContract.Json

/-- The digits of a number in base sixteen, four of them. -/
def hex4 (n : Nat) : List Char :=
  [Nat.digitChar (n / 4096 % 16), Nat.digitChar (n / 256 % 16), Nat.digitChar (n / 16 % 16),
    Nat.digitChar (n % 16)]

/-- The escape of a unit of sixteen bits. -/
def escape (n : Nat) : List Char :=
  '\\' :: 'u' :: hex4 n

/-- The escape of a character: one unit, or a pair of them. -/
def escapeChar (c : Char) : List Char :=
  (Text.unitsOf c.toNat).flatMap escape

/-- How values are written: what characters and halves of pairs are written as,
and which characters are escaped. -/
structure Style (α : Type) where
  asciiOnly : Bool
  char : Char → α
  half : Nat → List α

/-- A style for characters, among which there are no halves of pairs. -/
def charStyle (asciiOnly : Bool) : Style Char :=
  ⟨asciiOnly, id, escape⟩

/-- Answers to whoever gave data are in ASCII. -/
def answerStyle : Style Char :=
  charStyle true

/-- Documents are code points: characters beyond ASCII stay in them, and so do
halves of pairs. -/
def documentStyle : Style Nat :=
  ⟨false, Char.toNat, fun n => [n]⟩

/-- A character inside quotes. -/
def charText (asciiOnly : Bool) (c : Char) : List Char :=
  if c == '\x22' then ['\\', '\x22']
  else if c == '\\' then ['\\', '\\']
  else if c == '\n' then ['\\', 'n']
  else if c == '\r' then ['\\', 'r']
  else if c == '\t' then ['\\', 't']
  else if c.toNat == 0x8 then ['\\', 'b']
  else if c.toNat == 0xC then ['\\', 'f']
  else if c.toNat < 0x20 || (asciiOnly && c.toNat > 0x7E) then escapeChar c
  else [c]

variable {α : Type}

/-- Characters that nothing has to be done for. -/
def Style.plain (style : Style α) (cs : List Char) : List α :=
  cs.map style.char

@[simp]
theorem char_charStyle (asciiOnly : Bool) (c : Char) : (charStyle asciiOnly).char c = c :=
  rfl

@[simp]
theorem plain_charStyle (asciiOnly : Bool) (cs : List Char) :
    (charStyle asciiOnly).plain cs = cs :=
  List.map_id cs

/-- A code point inside quotes. -/
def writeCode (style : Style α) (n : Nat) : List α :=
  if Text.isHalf n then style.half n else style.plain (charText style.asciiOnly (Char.ofNat n))

/-- Code points in quotes. -/
def writeCodes (style : Style α) (codes : List Nat) : List α :=
  style.char '\x22' :: codes.flatMap (writeCode style) ++ [style.char '\x22']

/-- A text in quotes. -/
def writeText (style : Style α) (s : String) : List α :=
  style.plain ('\x22' :: s.toList.flatMap (charText style.asciiOnly) ++ ['\x22'])

/-- A double; infinities and what is not a number have names. -/
def writeDouble : Binary64 → List Char
  | .nan => "NaN".toList
  | .infinity negative => (if negative then "-Infinity" else "Infinity").toList
  | x => x.text.toList

/-- The text of a key that is not one of code points. -/
def keyText : Value → String
  | .str s => s
  | .tag t => t.text
  | .bool b => if b then "true" else "false"
  | .int n => toString n
  | .float x => String.ofList (writeDouble x)
  | _ => "null"

/-- A key in quotes. -/
def writeKey (style : Style α) : Value → List α
  | .unpaired codes => writeCodes style codes
  | key => writeText style (keyText key)

/-- A new line at a depth. -/
def newline (depth : Nat) : List Char :=
  '\n' :: List.replicate (2 * depth) ' '

/-! ### What cannot be written -/

/-- Why a whole number has no text. -/
def intFault? (n : Int) : Option Failure :=
  if (Number.intText? n).isSome then none else some (.badValue .tooManyDigits)

/-- Why a value is no key. -/
def keyFault? : Value → Option Failure
  | .int n => intFault? n
  | .list _ | .dict _ | .builtin _ | .component _ => some (.misuse .notSerialisable)
  | _ => none

mutual

/-- Why a value cannot be written. -/
def fault? : Value → Option Failure
  | .int n => intFault? n
  | .list vs => itemFault? vs
  | .dict es => entryFault? es
  | .builtin _ | .component _ => some (.misuse .notSerialisable)
  | _ => none

/-- Why the items of a list cannot be written. -/
def itemFault? : List Value → Option Failure
  | [] => none
  | v :: vs => (fault? v).orElse fun _ => itemFault? vs

/-- Why the entries of a dictionary cannot be written. -/
def entryFault? : List (Value × Value) → Option Failure
  | [] => none
  | (k, v) :: es =>
    ((keyFault? k).orElse fun _ => fault? v).orElse fun _ => entryFault? es

end

/-! ### Writing -/

mutual

/-- A value at a depth, and what comes after it. -/
def write (style : Style α) (depth : Nat) (after : List α) : Value → List α
  | .bool b => style.plain (if b then "true" else "false").toList ++ after
  | .int n => style.plain (toString n).toList ++ after
  | .float x => style.plain (writeDouble x) ++ after
  | .str s => writeText style s ++ after
  | .unpaired codes => writeCodes style codes ++ after
  | .tag t => writeText style t.text ++ after
  | .list [] => style.char '[' :: style.char ']' :: after
  | .list (v :: vs) =>
    style.plain ('[' :: newline (depth + 1)) ++
      write style (depth + 1)
        (writeItems style (depth + 1) (style.plain (newline depth) ++ style.char ']' :: after)
          vs) v
  | .dict [] => style.char '\x7b' :: style.char '\x7d' :: after
  | .dict ((k, v) :: es) =>
    style.plain ('\x7b' :: newline (depth + 1)) ++ writeKey style k ++
      style.char ':' :: style.char ' ' ::
        write style (depth + 1)
          (writeEntries style (depth + 1)
            (style.plain (newline depth) ++ style.char '\x7d' :: after) es) v
  | .null | .builtin _ | .component _ => style.plain "null".toList ++ after

/-- The items of a list after the first, each on a line of its own, and what comes
after them. -/
def writeItems (style : Style α) (depth : Nat) (after : List α) : List Value → List α
  | [] => after
  | v :: vs =>
    style.plain (',' :: newline depth) ++ write style depth (writeItems style depth after vs) v

/-- The entries of a dictionary after the first, each on a line of its own, and
what comes after them. -/
def writeEntries (style : Style α) (depth : Nat) (after : List α) :
    List (Value × Value) → List α
  | [] => after
  | (k, v) :: es =>
    style.plain (',' :: newline depth) ++ writeKey style k ++
      style.char ':' :: style.char ' ' :: write style depth (writeEntries style depth after es) v

end

/-- A value as a whole. -/
def written (style : Style α) (v : Value) : Except Failure (List α) :=
  match fault? v with
  | none => .ok (write style 0 [] v)
  | some f => .error f

end ApiContract.Json
