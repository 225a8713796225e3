import ApiContract.Number.Reading
import ApiContract.Number.Shortest
import ApiContract.Text.Quoted
import ApiContract.Value.Basic

/-!
# Displaying values

Every value has a text: the one that stands in for it where a name, a key or a
description is asked for.  A text displays as itself on its own and in quotes
inside a list or a dictionary.  Whole numbers of more than 4300 digits have no
text, and neither has a value that holds one; this is the only way in which
displaying fails.

A text that is none of characters displays as itself as well, which is again a
value.  Names are texts of characters only, and so are messages: where one of
these is asked for, such a text is in quotes, with escapes for what is no
character.
-/

namespace ApiContract

/-- The least magnitude with too many digits to be written. -/
def Number.digitCeiling : Nat := Nat.pow 10 Number.digitLimit

/-- The decimal text of a whole number that is not too long. -/
def Number.intText? (n : Int) : Option String :=
  if n.natAbs < Number.digitCeiling then some (toString n) else none

namespace Value

/-- The fields of a component that stands as a value, as they are displayed. -/
def componentFields (name : String) : List String :=
  ["type='object'", "of=None", "description=''", "as_=None", "enum=None",
    "allowable_values=None", "nullable=False", "properties=\x7b\x7d", "name=" ++ Text.quoted name]

/-- Texts with commas between them, in brackets. -/
def bracketed (left right : String) (texts : List String) : String :=
  left ++ String.intercalate ", " texts ++ right

mutual

/-- The text of a value inside a list or a dictionary. -/
def quoted? : Value → Option String
  | .null => some "None"
  | .bool b => some (if b then "True" else "False")
  | .int n => Number.intText? n
  | .float x => some x.text
  | .str s => some (Text.quoted s)
  | .unpaired codes => some (Text.quotedCodes codes)
  | .list vs => (quotedItems? vs).map (bracketed "[" "]")
  | .dict es => (quotedEntries? es).map (bracketed "\x7b" "\x7d")
  | .builtin t => some ("<class '" ++ t.name ++ "'>")
  | .tag t => some ("<TypeTag." ++ t.name ++ ": '" ++ t.text ++ "'>")
  | .component name => some (bracketed "Component(" ")" (componentFields name))

/-- The texts of the items of a list. -/
def quotedItems? : List Value → Option (List String)
  | [] => some []
  | v :: vs => do
    let head ← quoted? v
    let tail ← quotedItems? vs
    return head :: tail

/-- The texts of the entries of a dictionary. -/
def quotedEntries? : List (Value × Value) → Option (List String)
  | [] => some []
  | (k, v) :: es => do
    let key ← quoted? k
    let value ← quoted? v
    let tail ← quotedEntries? es
    return (key ++ ": " ++ value) :: tail

end

/-- The text of a value on its own, in characters. -/
def display? : Value → Option String
  | .str s => some s
  | .tag t => some ("TypeTag." ++ t.name)
  | .component name => some (String.intercalate " " (componentFields name))
  | v => quoted? v

/-- The text of a value on its own, whether or not it is one of characters. -/
def displayed? : Value → Option Value
  | .unpaired codes => some (.unpaired codes)
  | v => v.display?.map .str

@[simp]
theorem displayed?_str (s : String) : (str s).displayed? = some (.str s) :=
  rfl

theorem displayed?_of_ne {v : Value} (whole : ∀ codes, v ≠ .unpaired codes) :
    v.displayed? = v.display?.map .str := by
  cases v with
  | unpaired codes => exact absurd rfl (whole codes)
  | _ =>
    rw [displayed?]
    simp

@[simp]
theorem isSome_displayed? (v : Value) : v.displayed?.isSome = v.display?.isSome := by
  cases v with
  | unpaired => rfl
  | _ => rw [displayed?_of_ne (by simp), Option.isSome_map]

end Value

end ApiContract
