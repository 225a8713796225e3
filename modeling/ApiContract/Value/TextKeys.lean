import ApiContract.Value.Display

/-!
# Text keys

A document has texts for keys only.  `withTextKeys?` replaces every key in a
value, at any depth, by the text that it displays as, so that texts stay as they
are; keys that display alike become one, at the first place and with the last
value.  It fails only on keys that cannot be displayed.
-/

namespace ApiContract.Value

mutual

/-- The value with texts for keys, in every dictionary that lists and
dictionaries lead to. -/
def withTextKeys? : Value → Option Value
  | .list vs => (itemsWithTextKeys? vs).map .list
  | .dict es => (entriesWithTextKeys? es).map fun fs => .dict (Entries.ofList fs)
  | v => some v

/-- The items of a list, each with texts for keys. -/
def itemsWithTextKeys? : List Value → Option (List Value)
  | [] => some []
  | v :: vs => do
    let head ← withTextKeys? v
    let tail ← itemsWithTextKeys? vs
    return head :: tail

/-- The entries of a dictionary with texts for keys, not yet made one mapping. -/
def entriesWithTextKeys? : List (Value × Value) → Option (List (Value × Value))
  | [] => some []
  | (k, v) :: es => do
    let key ← k.displayed?
    let value ← withTextKeys? v
    let tail ← entriesWithTextKeys? es
    return (key, value) :: tail

end

end ApiContract.Value
