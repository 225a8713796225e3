import ApiContract.Number.Binary64

/-!
# The shortest text of a double

A double is written with the fewest significant digits that read back as the
same double, the nearest such digits if there are two, the even ones in a tie.
Positional notation is used while the decimal exponent is at least `-4` and
below `16`; beyond that, one digit stands before the point and the exponent has
a sign and at least two digits.
-/

namespace ApiContract.Binary64

/-- The decimal digits `digits · 10 ^ exponent`. -/
structure Decimal where
  digits : Nat
  exponent : Int
  deriving DecidableEq

/-- The decimal exponent of the magnitude at `place`: the power of ten of its
first digit.  Multiplying by `10³²⁴` first makes every magnitude at least one. -/
def leadingExponent (place : Nat) : Int :=
  ((Nat.toDigits 10 (unitsAt place * Nat.pow 10 324 / unitsPerOne)).length : Int) - 325

/-- The nearest multiple of a power of ten that still reads back as the
magnitude at `place`, where the power leaves `count` digits.  What reads back
is the interval from halfway to the place below to halfway to the place above,
ends included for an even place. -/
def withDigits? (place : Nat) (count : Nat) : Option Decimal :=
  let exponent : Int := leadingExponent place - count + 1
  let scale := Nat.pow 10 (-exponent).toNat
  let den := unitsPerOne * Nat.pow 10 exponent.toNat
  let num := unitsAt place * scale
  let low := (unitsAt (place - 1) + unitsAt place) * scale
  let high := (unitsAt place + unitsAt (place + 1)) * scale
  let readsBack (c : Nat) : Bool :=
    let twice := 2 * c * den
    if place % 2 == 0 then low ≤ twice && twice ≤ high else low < twice && twice < high
  let below := num / den
  let nearest := roundHalfEven num den
  let other := if nearest == below then below + 1 else below
  if readsBack nearest then some ⟨nearest, exponent⟩
  else if readsBack other then some ⟨other, exponent⟩
  else none

/-- The shortest digits of the magnitude at `place`; seventeen always suffice. -/
def shortest (place : Nat) : Decimal :=
  ((List.range 17).findSome? fun k => withDigits? place (k + 1)).getD ⟨0, 0⟩

/-- Digits without the zeros at their end. -/
def dropTrailingZeros (digits : List Char) : List Char :=
  (digits.reverse.dropWhile (· == '0')).reverse

/-- The exponent part: a sign and at least two digits. -/
def exponentText (exponent : Int) : String :=
  let digits := Nat.toDigits 10 exponent.natAbs
  let padded := if digits.length < 2 then '0' :: digits else digits
  "e" ++ (if exponent < 0 then "-" else "+") ++ String.ofList padded

/-- The text of a nonzero magnitude, from its digits and the power of ten of the
first of them. -/
def digitsText (digits : List Char) (leading : Int) : String :=
  if -4 ≤ leading && leading < 16 then
    if leading < 0 then
      "0." ++ String.ofList (List.replicate (-leading - 1).toNat '0') ++ String.ofList digits
    else
      let whole := leading.toNat + 1
      let zeros := List.replicate (whole - digits.length) '0'
      let fraction := if digits.length ≤ whole then ['0'] else digits.drop whole
      String.ofList (digits.take whole ++ zeros) ++ "." ++ String.ofList fraction
  else
    let fraction := digits.drop 1
    String.ofList (digits.take 1)
      ++ (if fraction.isEmpty then "" else "." ++ String.ofList fraction)
      ++ exponentText leading

/-- The text of a double. -/
def text : Binary64 → String
  | .nan => "nan"
  | .infinity negative => if negative then "-inf" else "inf"
  | .finite negative place =>
    let sign := if negative then "-" else ""
    if place.val == 0 then sign ++ "0.0"
    else
      let decimal := shortest place
      let digits := Nat.toDigits 10 decimal.digits
      sign ++ digitsText (dropTrailingZeros digits) (digits.length + decimal.exponent - 1)

end ApiContract.Binary64
