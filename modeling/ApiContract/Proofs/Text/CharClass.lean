import ApiContract.Text.Blank
import ApiContract.Text.LetterCase
import Mathlib.Data.List.Forall2
import Mathlib.Data.List.TakeDrop
import Mathlib.Data.List.TakeWhile

/-!
# Classes of characters

A run of characters of a class is taken off a text, and blanks around a text are lost
when it is stripped.  The case of the letters from A to Z is lost when a text is
brought to small letters, since no class that is asked for tells the two cases apart.
That goes for the final sigma too: whether a letter stands before or after it does not
depend on the case of that letter.
-/

namespace ApiContract.Text

/-! ### Runs of a class -/

/-- A run of a class is taken up to the first character that is not of it. -/
theorem span_append {p : Char → Bool} {run rest : List Char} (all : ∀ c ∈ run, p c = true)
    (stop : ∀ c ∈ rest.head?, p c = false) : (run ++ rest).span p = (run, rest) := by
  rw [List.span_eq_takeWhile_dropWhile, List.takeWhile_append_of_pos all,
    List.dropWhile_append_of_pos all]
  cases rest with
  | nil => simp
  | cons c rest => simp [stop c rfl]

/-- What is stripped may as well stand around the text. -/
theorem stripBy_append {p : Char → Bool} {before after : List Char}
    (front : ∀ c ∈ before, p c = true) (back : ∀ c ∈ after, p c = true) (cs : List Char) :
    stripBy p (before ++ cs ++ after) = stripBy p cs := by
  have backEmpty : after.dropWhile p = [] := List.dropWhile_eq_nil_iff.mpr back
  have backReversed : ∀ c ∈ after.reverse, p c = true := by simpa using back
  rw [stripBy, List.append_assoc, List.dropWhile_append_of_pos front, List.dropWhile_append,
    backEmpty]
  split
  · rename_i empty
    rw [stripBy, List.isEmpty_iff.mp empty]
  · rw [List.reverse_append, List.dropWhile_append_of_pos backReversed, stripBy]

/-! ### The case of letters -/

/-- Two characters are one letter from A to Z, or the same character. -/
def SameLetter (c d : Char) : Prop :=
  c.toLower = d.toLower

/-- The capital letters from A to Z. -/
def capitals : List Char :=
  "ABCDEFGHIJKLMNOPQRSTUVWXYZ".toList

/-- What is asked of a character does not depend on the case of a letter from A to Z. -/
def IgnoresCase {α : Type} (f : Char → α) : Prop :=
  ∀ c ∈ capitals, f c = f c.toLower

theorem toLower_eq_self {c : Char} (other : c ∉ capitals) : c.toLower = c := by
  by_cases capital : 'A'.val ≤ c.val ∧ c.val ≤ 'Z'.val
  · refine absurd ?_ other
    have each : ∀ n ∈ List.range' 65 26, Char.ofNat n ∈ capitals := by decide
    have bounds : 65 ≤ c.toNat ∧ c.toNat ≤ 90 :=
      ⟨UInt32.le_iff_toNat_le.mp capital.1, UInt32.le_iff_toNat_le.mp capital.2⟩
    have member : c.toNat ∈ List.range' 65 26 := List.mem_range'_1.mpr ⟨bounds.1, by omega⟩
    rw [← Char.ofNat_toNat c]
    exact each _ member
  · exact dif_neg capital

theorem IgnoresCase.eq {α : Type} {f : Char → α} (ignores : IgnoresCase f) {c d : Char}
    (same : SameLetter c d) : f c = f d := by
  have small : ∀ c, f c = f c.toLower := by
    intro c
    by_cases capital : c ∈ capitals
    · exact ignores c capital
    · rw [toLower_eq_self capital]
  rw [small c, small d, same]

/-- Texts differ in case if they have the same letters in small. -/
theorem sameLetters_iff {cs ds : List Char} :
    List.Forall₂ SameLetter cs ds ↔ cs.map Char.toLower = ds.map Char.toLower := by
  rw [← List.forall₂_eq_eq_eq, List.forall₂_map_left_iff, List.forall₂_map_right_iff]
  rfl

/-- Letter by letter: this is decided on the list, and not on all characters there are. -/
theorem ignoresCase_of_all {α : Type} [DecidableEq α] {f : Char → α}
    (all : (capitals.all fun c => f c == f c.toLower) = true) : IgnoresCase f :=
  fun c listed => eq_of_beq (List.all_eq_true.mp all c listed)

theorem ignoresCase_isBlank : IgnoresCase isBlank :=
  ignoresCase_of_all (by decide)

theorem ignoresCase_isCased : IgnoresCase (inRanges casedRanges) :=
  ignoresCase_of_all (by decide +kernel)

/-- No letter from A to Z is without weight. -/
theorem ignoresCase_isIgnorable : IgnoresCase (inRanges caseIgnorableRanges) := by
  have apart : ∀ range ∈ caseIgnorableRanges.toList,
      range.2 < 65 ∨ 90 < range.1 ∧ range.2 < 97 ∨ 122 < range.1 := by decide +kernel
  have weighs : ∀ c : Char, 65 ≤ c.toNat ∧ c.toNat ≤ 90 ∨ 97 ≤ c.toNat ∧ c.toNat ≤ 122 →
      inRanges caseIgnorableRanges c = false := by
    intro c letter
    rw [inRanges, Array.any_eq_false']
    intro range listed inside
    have := apart range (Array.mem_toList_iff.mpr listed)
    simp only [Bool.and_eq_true, decide_eq_true_eq] at inside
    omega
  have letters : (capitals.all fun c => decide ((65 ≤ c.toNat ∧ c.toNat ≤ 90) ∧
      97 ≤ c.toLower.toNat ∧ c.toLower.toNat ≤ 122)) = true := by decide
  intro c capital
  obtain ⟨large, small⟩ := of_decide_eq_true (List.all_eq_true.mp letters c capital)
  rw [weighs c (.inl large), weighs _ (.inr small)]

theorem ignoresCase_isSigma : IgnoresCase (· == 'Σ') :=
  ignoresCase_of_all (by decide)

theorem ignoresCase_lowerChar : IgnoresCase lowerChar :=
  ignoresCase_of_all (by decide +kernel)

variable {cs ds before others : List Char}

/-- What a class of characters leaves of two texts that differ in case differs in case. -/
theorem sameLetters_dropWhile {p : Char → Bool} (ignores : IgnoresCase p)
    (same : List.Forall₂ SameLetter cs ds) :
    List.Forall₂ SameLetter (cs.dropWhile p) (ds.dropWhile p) := by
  induction same with
  | nil => exact .nil
  | @cons c d cs ds head tail ih =>
      rw [List.dropWhile_cons, List.dropWhile_cons, ignores.eq head]
      split
      · exact ih
      · exact .cons head tail

theorem sameLetters_stripBy {p : Char → Bool} (ignores : IgnoresCase p)
    (same : List.Forall₂ SameLetter cs ds) :
    List.Forall₂ SameLetter (stripBy p cs) (stripBy p ds) := by
  rw [stripBy, stripBy, List.forall₂_reverse_iff]
  apply sameLetters_dropWhile ignores
  rw [List.forall₂_reverse_iff]
  exact sameLetters_dropWhile ignores same

theorem casedFirst_eq (same : List.Forall₂ SameLetter cs ds) : casedFirst cs = casedFirst ds := by
  have left := sameLetters_dropWhile ignoresCase_isIgnorable same
  rw [casedFirst, casedFirst]
  generalize cs.dropWhile (inRanges caseIgnorableRanges) = first at left ⊢
  generalize ds.dropWhile (inRanges caseIgnorableRanges) = second at left ⊢
  cases left with
  | nil => rfl
  | cons head _ => exact ignoresCase_isCased.eq head

/-- Texts that differ in case have the same small letters. -/
theorem lowerFrom_eq (standing : List.Forall₂ SameLetter before others)
    (same : List.Forall₂ SameLetter cs ds) : lowerFrom before cs = lowerFrom others ds := by
  induction same generalizing before others with
  | nil => rfl
  | @cons c d cs ds head tail ih =>
      have sigma : (c == 'Σ') = (d == 'Σ') := ignoresCase_isSigma.eq head
      rw [lowerFrom, lowerFrom, sigma, ignoresCase_lowerChar.eq head, casedFirst_eq standing,
        casedFirst_eq tail, ih (.cons head standing)]

/-! ### The first characters -/

/-- A text has only characters of the first 128. -/
def IsAscii (s : String) : Prop :=
  ∀ c ∈ s.toList, c.toNat < 0x80

theorem lowerFrom_of_ascii {cs : List Char} (ascii : ∀ c ∈ cs, c.toNat < 0x80)
    (before : List Char) : lowerFrom before cs = cs.map Char.toLower := by
  induction cs generalizing before with
  | nil => rfl
  | cons c rest ih =>
      obtain ⟨first, later⟩ := List.forall_mem_cons.mp ascii
      have noSigma : (c == 'Σ') = false := by
        rw [beq_eq_false_iff_ne]
        rintro rfl
        exact absurd first (by decide)
      rw [lowerFrom, noSigma, lowerChar, if_pos first, ih later, List.map_cons]
      rfl

/-- A text of the first characters is brought to small letters one by one. -/
theorem IsAscii.lower_eq {s : String} (ascii : IsAscii s) : lower s = s.toLower := by
  rw [lower, lowerFrom_of_ascii ascii, ← String.toList_map, String.ofList_toList]
  rfl

/-- The small letters of the first characters are among these, and stay as they are. -/
theorem toLower_of_ascii {c : Char} (ascii : c.toNat < 0x80) :
    c.toLower.toNat < 0x80 ∧ c.toLower.toLower = c.toLower := by
  by_cases capital : c ∈ capitals
  · have each : (capitals.all fun c =>
        decide (c.toLower.toNat < 0x80 ∧ c.toLower.toLower = c.toLower)) = true := by decide
    exact of_decide_eq_true (List.all_eq_true.mp each c capital)
  · rw [toLower_eq_self capital]
    exact ⟨ascii, toLower_eq_self capital⟩

/-- A text of the first characters in small letters stays as it is. -/
theorem IsAscii.lower_toLower {s : String} (ascii : IsAscii s) : lower s.toLower = s.toLower := by
  have letters (t : String) : t.toLower.toList = t.toList.map Char.toLower := String.toList_map
  have small : IsAscii s.toLower := by
    intro c member
    rw [letters] at member
    obtain ⟨d, inside, rfl⟩ := List.mem_map.mp member
    exact (toLower_of_ascii (ascii d inside)).1
  rw [small.lower_eq, ← String.toList_inj, letters, letters, List.map_map]
  exact List.map_congr_left fun c inside => (toLower_of_ascii (ascii c inside)).2

end ApiContract.Text
