import ApiContract.Checked

/-!
# When checked data are valid

What is put together from checked data is valid exactly if all of its parts are,
and then it is what their meanings make.
-/

namespace ApiContract.Checked

variable {α β : Type}

@[simp]
theorem map_eq_valid_iff {f : α → β} {checked : Checked α} {b : β} :
    f <$> checked = .valid b ↔ ∃ a, checked = .valid a ∧ f a = b := by
  cases checked <;> simp [Functor.map, map]

@[simp]
theorem seq_eq_valid_iff {functions : Checked (α → β)} {checked : Checked α} {b : β} :
    functions <*> checked = .valid b ↔
      ∃ f a, functions = .valid f ∧ checked = .valid a ∧ f a = b := by
  cases functions <;> cases checked <;> simp [Seq.seq, seq]

@[simp]
theorem within_eq_valid_iff {part : String} {checked : Checked α} {a : α} :
    checked.within part = .valid a ↔ checked = .valid a := by
  cases checked <;> simp [within]

@[simp]
theorem refusing_eq_valid_iff {problems : List Problem} {checked : Checked α} {a : α} :
    checked.refusing problems = .valid a ↔ problems = [] ∧ checked = .valid a := by
  by_cases none : problems = [] <;> cases checked <;> simp [refusing, none]

/-- What is made of valid data is refused for the same problems. -/
theorem refusing_map (f : α → β) (problems : List Problem) (checked : Checked α) :
    (f <$> checked).refusing problems = f <$> checked.refusing problems := by
  cases checked with
  | valid a =>
      by_cases none : problems = [] <;> simp [refusing, none, Functor.map, map]
  | refused others => rfl

@[simp]
theorem toExcept_eq_ok_iff {checked : Checked α} {a : α} :
    checked.toExcept = .ok a ↔ checked = .valid a := by
  cases checked <;> simp [toExcept]

end ApiContract.Checked
