import ApiContract.Checked
import ApiContract.Number.Shortest
import ApiContract.Yaml.Scalar

/-!
# Writing YAML

A value is written in block style: the entries of a mapping and the items of a
sequence each start a line, two columns deeper than what holds them, though a
sequence in a mapping is not indented.  What is empty stays on its line.  A key
that is empty, long or of several lines is introduced by a question mark.

Types, tags and components have no YAML form, and whole numbers with too many
digits have no text.  Half of a pair in a text is written as an escape.
-/

namespace ApiContract.Yaml

/-- The text of a double: a point is put before the exponent if there is none. -/
def doubleText : Binary64 → List Char
  | .nan => ".nan".toList
  | .infinity negative => (if negative then "-.inf" else ".inf").toList
  | x =>
    let cs := x.text.toList
    if cs.contains '.' then cs
    else cs.flatMap fun c => if c == 'e' then ['.', '0', 'e'] else [c]

/-- The scalar of some characters. -/
def Scalar.ofText (text : List Char) (isText : Bool) (tagWidth : Nat) : Scalar :=
  ⟨text.map Char.toNat, isText, tagWidth⟩

/-- The scalar that a value is. -/
def scalar : Value → Except Failure Scalar
  | .null => .ok (.ofText "null".toList false 6)
  | .bool b => .ok (.ofText (if b then "true" else "false").toList false 6)
  | .int n =>
    match Number.intText? n with
    | some text => .ok (.ofText text.toList false 5)
    | none => .error (.badValue .tooManyDigits)
  | .float x => .ok (.ofText (doubleText x) false 7)
  | .str s => .ok (.ofText s.toList true 5)
  | .unpaired codes => .ok ⟨codes, true, 5⟩
  | .list _ | .dict _ | .builtin _ | .tag _ | .component _ => .error .notRepresentable

/-- A new line up to a column. -/
def newline (column : Nat) : List Char :=
  '\n' :: spaces column

/-- The mark that a value comes after. -/
inductive Mark where
  /-- The mark of an item, or of the value of a key that is not simple. -/
  | item
  /-- The colon after a simple key, which ends before a column. -/
  | colon (column : Nat)

namespace Mark

/-- The column after a mark, where what holds the value starts at a column. -/
def after (parent : Nat) : Mark → Nat
  | .item => parent + 1
  | .colon column => column

/-- How a sequence is led up to after a mark, and its column. -/
def sequence (parent : Nat) : Mark → List Char × Nat
  | .item => ([' '], parent + 2)
  | .colon _ => (newline parent, parent)

/-- How a mapping is led up to after a mark, and its column. -/
def mapping (parent : Nat) : Mark → List Char × Nat
  | .item => ([' '], parent + 2)
  | .colon _ => (newline (parent + 2), parent + 2)

/-- A scalar after a mark. -/
def scalar (m : Mark) (parent : Nat) (s : Scalar) : List Char :=
  ' ' :: s.write ⟨true, parent + 2⟩ (m.after parent + 1)

end Mark

/-- A key of a mapping at a column with the mark after it. -/
def writeKey (column : Nat) (key : Scalar) : List Char × Mark :=
  if key.isSimpleKey then
    let text := key.write ⟨false, 0⟩ 0
    (text ++ [':'], .colon (column + text.length + 1))
  else ('?' :: Mark.item.scalar column key ++ newline column ++ [':'], .item)

mutual

/-- A value after a mark, where what holds the value starts at a column. -/
def writeValue (mark : Mark) (parent : Nat) : Value → Except Failure (List Char)
  | .list [] => .ok " []".toList
  | .dict [] => .ok " \x7b\x7d".toList
  | .list (v :: vs) => do
    let (lead, column) := mark.sequence parent
    let head ← writeValue .item column v
    let tail ← writeItems column vs
    return lead ++ '-' :: head ++ tail
  | .dict ((k, v) :: es) => do
    let (lead, column) := mark.mapping parent
    let (key, colon) := writeKey column (← scalar k)
    let head ← writeValue colon column v
    let tail ← writeEntries column es
    return lead ++ key ++ head ++ tail
  | v => (scalar v).map (mark.scalar parent)

/-- The items of a sequence at a column, each on a line of its own. -/
def writeItems (column : Nat) : List Value → Except Failure (List Char)
  | [] => .ok []
  | v :: vs => do
    let head ← writeValue .item column v
    let tail ← writeItems column vs
    return newline column ++ '-' :: head ++ tail

/-- The entries of a mapping at a column, each on a line of its own. -/
def writeEntries (column : Nat) : List (Value × Value) → Except Failure (List Char)
  | [] => .ok []
  | (k, v) :: es => do
    let (key, colon) := writeKey column (← scalar k)
    let head ← writeValue colon column v
    let tail ← writeEntries column es
    return newline column ++ key ++ head ++ tail

end

/-- A scalar on its own; a plain one is followed by the mark of the document's
end. -/
def writeRoot (s : Scalar) : List Char :=
  s.write ⟨true, 2⟩ 0 ++ if s.style = .plain then "\n...\n".toList else ['\n']

/-- A value as a document: a container without the line end before it. -/
def write : Value → Except Failure (List Char)
  | .list [] => .ok "[]\n".toList
  | .dict [] => .ok "\x7b\x7d\n".toList
  | .list vs => (writeItems 0 vs).map fun cs => cs.drop 1 ++ ['\n']
  | .dict es => (writeEntries 0 es).map fun cs => cs.drop 1 ++ ['\n']
  | v => (scalar v).map writeRoot

/-- The text of a value. -/
def text (v : Value) : Except Failure String :=
  (write v).map String.ofList

end ApiContract.Yaml
