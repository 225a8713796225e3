/-!
# Known words close to a text

Two texts are compared by the blocks they have in common: the longest run of
characters that stands in both, then, again and again, the longest run to the
left and to the right of it.  The ratio of a known word to a given text is twice
the number of characters in these blocks over the length of both.

In a given text of at least 200 characters, a character that makes up more than
about a hundredth of it does not start a run; a run may still be extended over
it.
-/

namespace ApiContract.Text

/-- The characters of a long text that are too common to start a run. -/
def commonChars (text : List Char) : List Char :=
  if text.length < 200 then []
  else text.eraseDups.filter fun c => text.count c > text.length / 100 + 1

/-- A run of characters that stands at `left` in one text and at `right` in the
other. -/
structure Run where
  left : Nat
  right : Nat
  length : Nat
  deriving DecidableEq

/-- For every place in `text`, the length of the run that ends there and whose
last character is `c`, from the lengths of the runs one place before. -/
def extendRuns (common : List Char) (c : Char) : List Char → List Nat → List Nat
  | d :: text, n :: before =>
    (if d == c && !common.contains c then n + 1 else 0) :: extendRuns common c text before
  | _, _ => []

/-- The longer of a run and the runs that end at place `left` of one text and at
the places from `right` on of the other; the first of equally long ones. -/
def longerRun (left : Nat) : Nat → List Nat → Run → Run
  | _, [], best => best
  | right, n :: lengths, best =>
    longerRun left (right + 1) lengths
      (if n > best.length then ⟨left + 1 - n, right + 1 - n, n⟩ else best)

/-- The longest run of two texts, by going through the first character by
character: `lengths` are the runs that end one place before. -/
def longestFrom (common text : List Char) : Nat → List Char → List Nat → Run → Run
  | _, [], _, best => best
  | left, c :: rest, lengths, best =>
    let now := extendRuns common c text (0 :: lengths)
    longestFrom common text (left + 1) rest now (longerRun left 0 now best)

/-- How many characters two texts have in common at their start. -/
def commonStart : List Char → List Char → Nat
  | c :: cs, d :: ds => if c == d then commonStart cs ds + 1 else 0
  | _, _ => 0

/-- The longest run of two texts, extended on both sides as far as the texts
agree. -/
def longestRun (common word text : List Char) : Run :=
  let run := longestFrom common text 0 word (List.replicate text.length 0) ⟨0, 0, 0⟩
  let back := commonStart (word.take run.left).reverse (text.take run.right).reverse
  let ahead := commonStart (word.drop (run.left + run.length)) (text.drop (run.right + run.length))
  ⟨run.left - back, run.right - back, back + run.length + ahead⟩

/-- The number of characters in the blocks that two texts have in common. -/
def matched (common : List Char) (word text : List Char) : Nat :=
  let run := longestRun common word text
  if _h : run.length = 0 ∨ word.length ≤ run.left then 0
  else
    run.length + matched common (word.take run.left) (text.take run.right)
      + matched common (word.drop (run.left + run.length)) (text.drop (run.right + run.length))
termination_by word.length
decreasing_by
  · simp +zetaDelta only [List.length_take] at *; omega
  · simp +zetaDelta only [List.length_drop] at *; omega

/-- The ratio of a known word to a given text. -/
structure Ratio where
  agreed : Nat
  total : Nat

/-- The ratio of a known word to a given text, of which the common characters are
given too; two empty texts agree fully. -/
def Ratio.of (common word text : List Char) : Ratio :=
  let total := word.length + text.length
  if total = 0 then ⟨1, 1⟩ else ⟨2 * matched common word text, total⟩

/-- Whether a ratio is at least six tenths. -/
def Ratio.close (r : Ratio) : Bool :=
  10 * r.agreed ≥ 6 * r.total

/-- Whether one word with its ratio comes after another: by ratio, and by the
words where the ratios are equal. -/
def ranksBelow (a b : Ratio × String) : Bool :=
  let m := a.1.agreed * b.1.total
  let n := b.1.agreed * a.1.total
  m < n || (m == n && a.2 < b.2)

/-- The known words close to a text, closest first, and no more than `count` of
them. -/
def closest (count : Nat) (known : List String) (text : String) : List String :=
  let common := commonChars text.toList
  let scored := known.map fun word => (Ratio.of common word.toList text.toList, word)
  let close := (scored.filter (·.1.close)).mergeSort fun a b => !ranksBelow a b
  (close.map (·.2)).take count

/-- The known word closest to a text, if any is close. -/
def closest? (known : List String) (text : String) : Option String :=
  (closest 1 known text).head?

example : longestRun [] ['a', 'b', 'x', 'c', 'd'] ['a', 'b', 'c', 'd'] = ⟨0, 0, 2⟩ := by decide

end ApiContract.Text
