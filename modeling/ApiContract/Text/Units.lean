/-!
# Units of sixteen bits

A text that is written in units of sixteen bits has one unit for most of its
characters and a pair of units, a high and a low half, for the others.  Units
that are joined give code points; half of a pair that stands alone is none of a
character and stays as it is.
-/

namespace ApiContract.Text

/-- Whether a unit is the first half of a pair. -/
def isHigh (n : Nat) : Bool :=
  0xD800 ≤ n && n < 0xDC00

/-- Whether a unit is the second half of a pair. -/
def isLow (n : Nat) : Bool :=
  0xDC00 ≤ n && n < 0xE000

/-- Whether a code point is half of a pair and so no character. -/
def isHalf (n : Nat) : Bool :=
  isHigh n || isLow n

/-- The code point that the two halves of a pair stand for. -/
def pairCode (high low : Nat) : Nat :=
  0x10000 + (high - 0xD800) * 0x400 + (low - 0xDC00)

/-- The units of a code point. -/
def unitsOf (n : Nat) : List Nat :=
  if n < 0x10000 then [n] else [0xD800 + (n - 0x10000) / 0x400, 0xDC00 + (n - 0x10000) % 0x400]

/-- The code points that units stand for. -/
def joinUnits : List Nat → List Nat
  | [] => []
  | [n] => [n]
  | n :: m :: rest =>
    if isHigh n && isLow m then pairCode n m :: joinUnits rest else n :: joinUnits (m :: rest)

theorem joinUnits_cons_of_not_isHigh {n : Nat} (h : isHigh n = false) (units : List Nat) :
    joinUnits (n :: units) = n :: joinUnits units := by
  cases units with
  | nil => simp [joinUnits]
  | cons m units => simp [joinUnits, h]

/-- The units of a code point that is not half of a pair are joined to it again. -/
theorem joinUnits_unitsOf_append {n : Nat} (h : isHalf n = false) (hn : n < 0x110000)
    (units : List Nat) : joinUnits (unitsOf n ++ units) = n :: joinUnits units := by
  unfold unitsOf
  split
  · exact joinUnits_cons_of_not_isHigh (by simp_all [isHalf]) units
  · have high : isHigh (0xD800 + (n - 0x10000) / 0x400) = true := by
      simp only [isHigh, Bool.and_eq_true, decide_eq_true_eq]
      omega
    have low : isLow (0xDC00 + (n - 0x10000) % 0x400) = true := by
      simp only [isLow, Bool.and_eq_true, decide_eq_true_eq]
      omega
    have code : pairCode (0xD800 + (n - 0x10000) / 0x400) (0xDC00 + (n - 0x10000) % 0x400) = n := by
      unfold pairCode
      omega
    simp [joinUnits, high, low, code]

end ApiContract.Text
