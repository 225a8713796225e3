/-!
# Starts and parts of texts

`after?` takes the start off a text.  It succeeds on exactly the texts that begin
with that start.  `isPart` finds one text inside another.  Both do the same for
texts that are given by the numbers of their characters.
-/

namespace ApiContract.Text

variable {α : Type} [DecidableEq α]

/-- What follows `start` in a text that begins with it. -/
def after? : List α → List α → Option (List α)
  | [], cs => some cs
  | _, [] => none
  | s :: start, c :: cs => if s == c then after? start cs else none

theorem after?_append (start rest : List α) : after? start (start ++ rest) = some rest := by
  induction start with
  | nil => simp [after?]
  | cons s start ih => simp [after?, ih]

theorem after?_eq_some_iff {start cs rest : List α} :
    after? start cs = some rest ↔ cs = start ++ rest := by
  refine ⟨fun h => ?_, fun h => h ▸ after?_append start rest⟩
  induction start generalizing cs with
  | nil => simpa [after?] using h
  | cons s start ih =>
    cases cs with
    | nil => simp [after?] at h
    | cons c cs =>
      by_cases hc : s = c
      · subst hc
        simp only [after?, beq_self_eq_true, if_true] at h
        simp [ih h]
      · simp [after?, hc] at h

/-- Whether a text stands somewhere in another. -/
def isPart (part : List α) : List α → Bool
  | [] => part.isEmpty
  | c :: cs => (after? part (c :: cs)).isSome || isPart part cs

theorem isPart_append (before part rest : List α) :
    isPart part (before ++ (part ++ rest)) = true := by
  induction before with
  | nil =>
    have h := after?_append part rest
    cases hp : part ++ rest with
    | nil => simp_all [isPart]
    | cons c cs =>
      rw [hp] at h
      simp [isPart, h]
  | cons c before ih => simp [isPart, ih]

theorem isPart_eq_true_iff {part cs : List α} :
    isPart part cs = true ↔ ∃ before rest, cs = before ++ (part ++ rest) := by
  refine ⟨fun h => ?_, fun ⟨before, rest, h⟩ => h ▸ isPart_append before part rest⟩
  induction cs with
  | nil => exact ⟨[], [], by simpa [isPart] using h⟩
  | cons c cs ih =>
    simp only [isPart, Bool.or_eq_true, Option.isSome_iff_exists, after?_eq_some_iff] at h
    rcases h with ⟨rest, h⟩ | h
    · exact ⟨[], rest, h⟩
    · obtain ⟨before, rest, h⟩ := ih h
      exact ⟨c :: before, rest, by simp [h]⟩

end ApiContract.Text
