/-!
# Double-precision numbers

A double is not a number, an infinity, or a finite value.  Each finite value is
a whole number of units of `2⁻¹⁰⁷⁴`, and there are `2047 · 2⁵²` finite
magnitudes; `finite negative place` is the magnitude at `place` when they are
counted upwards from zero.  So every value of the type is a double, no double
has two spellings, and arithmetic on doubles is arithmetic on natural numbers.

`ofRatio` rounds a quotient to the nearest double, ties to the even place; all
readings and conversions go through it.
-/

namespace ApiContract

/-- A double-precision number.  The two zeros are different values that compare
as equal. -/
inductive Binary64 where
  | nan
  | infinity (negative : Bool)
  | finite (negative : Bool) (place : Fin (2047 * Nat.pow 2 52))
  deriving DecidableEq

namespace Binary64

/-- One, in units of `2⁻¹⁰⁷⁴`. -/
def unitsPerOne : Nat := Nat.pow 2 1074

/-- How many significant bits the magnitude at `place` has been shifted. -/
def shiftAt (place : Nat) : Nat :=
  place / Nat.pow 2 52 - 1

/-- The significant bits of the magnitude at `place`, before the shift. -/
def significandAt (place : Nat) : Nat :=
  place - shiftAt place * Nat.pow 2 52

/-- The magnitude at `place`, in units of `2⁻¹⁰⁷⁴`. -/
def unitsAt (place : Nat) : Nat :=
  significandAt place * Nat.pow 2 (shiftAt place)

/-- The whole number nearest to `num / den`, the even one of two. -/
def roundHalfEven (num den : Nat) : Nat :=
  let floor := num / den
  let rest := num % den
  if 2 * rest > den || (2 * rest == den && floor % 2 == 1) then floor + 1 else floor

/-- The place of the magnitude nearest to `num / den`.  A place past the finite
ones means that the quotient is too large. -/
def placeOfRatio (num den : Nat) : Nat :=
  let units := num * unitsPerOne
  let shift := (units / den).log2 - 52
  shift * Nat.pow 2 52 + roundHalfEven units (den * Nat.pow 2 shift)

/-- The double at a place, or an infinity when there is none. -/
def ofPlace (negative : Bool) (place : Nat) : Binary64 :=
  if h : place < 2047 * Nat.pow 2 52 then .finite negative ⟨place, h⟩ else .infinity negative

/-- The double nearest to `num / den`. -/
def ofRatio (negative : Bool) (num den : Nat) : Binary64 :=
  ofPlace negative (placeOfRatio num den)

/-- The two zeros. -/
def zero (negative : Bool) : Binary64 :=
  .finite negative ⟨0, by decide⟩

/-- The double nearest to a whole number; an infinity when it is too large. -/
def ofInt (n : Int) : Binary64 :=
  ofRatio (n < 0) n.natAbs 1

/-- The double nearest to a whole number that is not too large for one. -/
def ofInt? (n : Int) : Option Binary64 :=
  match ofInt n with
  | .finite negative place => some (.finite negative place)
  | _ => none

/-- The double nearest to `digits · 10 ^ exponent`.  Exponents that are out of
reach are decided by the number of digits, without computing the power. -/
def ofDecimal (negative : Bool) (digits : Nat) (exponent : Int) : Binary64 :=
  let top : Int := (Nat.toDigits 10 digits).length + exponent
  if digits == 0 then zero negative
  else if top > 320 then .infinity negative
  else if top < -340 then zero negative
  else if exponent ≥ 0 then ofRatio negative (digits * Nat.pow 10 exponent.toNat) 1
  else ofRatio negative digits (Nat.pow 10 (-exponent).toNat)

/-- The whole number that a double is, if it is one. -/
def toInt? : Binary64 → Option Int
  | .finite negative place =>
    let units := unitsAt place
    if units % unitsPerOne == 0 then
      let n : Int := (units / unitsPerOne : Nat)
      some (if negative then -n else n)
    else none
  | _ => none

/-- Why a double is not taken for a whole number. -/
inductive WholeFault where
  | infinite
  | fractional
  | tooLarge
  deriving DecidableEq

/-- Take a double for a whole number below `2⁶³` in magnitude. -/
def toWhole (x : Binary64) : Except WholeFault Int :=
  match x with
  | .finite _ _ =>
    match x.toInt? with
    | none => .error .fractional
    | some n => if n.natAbs < Nat.pow 2 63 then .ok n else .error .tooLarge
  | _ => .error .infinite

/-- Whether two doubles compare as equal: the zeros do, and `nan` with nothing. -/
def same : Binary64 → Binary64 → Bool
  | .finite m i, .finite n j => i == j && (m == n || i.val == 0)
  | .infinity m, .infinity n => m == n
  | _, _ => false

/-- Whether a double compares as equal to a whole number. -/
def sameInt (x : Binary64) (n : Int) : Bool :=
  x.toInt? == some n

example : ofInt 1 = .finite false ⟨1023 * Nat.pow 2 52, by decide⟩ := by decide +kernel

example : ofDecimal false 5 (-324) = .finite false ⟨1, by decide⟩ := by decide +kernel

example : ofDecimal true 1 400 = .infinity true := by decide +kernel

example : (ofDecimal false 25 (-1)).toInt? = none := by decide +kernel

example : (ofDecimal true 1 18).toInt? = some (-1000000000000000000) := by decide +kernel

end Binary64

end ApiContract
