import ApiContract.Failure
import Mathlib.Data.List.Forall2

/-!
# Attempts that succeed

A chain of attempts succeeds exactly if each of them does, the later ones with
the results of the earlier.  It fails with the first failure in the chain.
-/

namespace ApiContract.Attempt

variable {ε α β : Type}

@[simp]
theorem ok_bind (a : α) (next : α → Except ε β) : (Except.ok a).bind next = next a :=
  rfl

@[simp]
theorem ok_do (a : α) (next : α → Except ε β) : (Except.ok a >>= next) = next a :=
  rfl

theorem map_ok (f : α → β) (a : α) : (Except.ok a : Except ε α).map f = .ok (f a) :=
  rfl

theorem map_error (f : α → β) (e : ε) : (Except.error e : Except ε α).map f = .error e :=
  rfl

@[simp]
theorem bind_eq_ok_iff {first : Except ε α} {next : α → Except ε β} {b : β} :
    first.bind next = .ok b ↔ ∃ a, first = .ok a ∧ next a = .ok b := by
  cases first <;> simp [Except.bind]

@[simp]
theorem do_eq_ok_iff {first : Except ε α} {next : α → Except ε β} {b : β} :
    (first >>= next) = .ok b ↔ ∃ a, first = .ok a ∧ next a = .ok b :=
  bind_eq_ok_iff

/-- A chain succeeds if its first attempt does and the others do with every result. -/
theorem exists_do {first : Except ε α} {next : α → Except ε β} (head : ∃ a, first = .ok a)
    (tail : ∀ a, ∃ b, next a = .ok b) : ∃ b, (first >>= next) = .ok b := by
  rcases head with ⟨a, rfl⟩
  exact tail a

@[simp]
theorem map_eq_ok_iff {first : Except ε α} {f : α → β} {b : β} :
    first.map f = .ok b ↔ ∃ a, first = .ok a ∧ f a = b := by
  cases first <;> simp [Except.map]

@[simp]
theorem map_eq_error_iff {first : Except ε α} {f : α → β} {e : ε} :
    first.map f = .error e ↔ first = .error e := by
  cases first <;> simp [Except.map]

theorem map_bind {γ : Type} (first : Except ε α) (next : α → Except ε β) (f : β → γ) :
    (first.bind next).map f = first.bind fun a => (next a).map f := by
  cases first <;> rfl

theorem map_map {γ : Type} (first : Except ε α) (f : α → β) (g : β → γ) :
    (first.map f).map g = first.map fun a => g (f a) := by
  cases first <;> rfl

theorem bind_ok_eq_map (first : Except ε α) (f : α → β) :
    (first.bind fun a => .ok (f a)) = first.map f := by
  cases first <;> rfl

@[simp]
theorem fmap_eq_ok_iff {first : Except ε α} {f : α → β} {b : β} :
    (f <$> first) = .ok b ↔ ∃ a, first = .ok a ∧ f a = b :=
  map_eq_ok_iff

@[simp]
theorem pure_eq_ok_iff {a b : α} : (pure a : Except ε α) = .ok b ↔ a = b := by
  simp [pure, Except.pure]

/-- Two lists that are both obtained and joined make an empty one exactly if both
are empty. -/
theorem append_eq_ok_nil_iff {first second : Except ε (List α)} :
    (do
      let head ← first
      let tail ← second
      return head ++ tail) = .ok [] ↔ first = .ok [] ∧ second = .ok [] := by
  simp only [do_eq_ok_iff, pure_eq_ok_iff, List.append_eq_nil_iff]
  constructor
  · rintro ⟨head, headEq, tail, tailEq, rfl, rfl⟩
    exact ⟨headEq, tailEq⟩
  · rintro ⟨headEq, tailEq⟩
    exact ⟨[], headEq, [], tailEq, rfl, rfl⟩

/-- Attempts on the items of a list succeed with the list of their results. -/
theorem mapM_eq_ok_iff {attempt : α → Except ε β} {list : List α} {results : List β} :
    list.mapM attempt = .ok results ↔
      List.Forall₂ (fun a b => attempt a = .ok b) list results := by
  induction list generalizing results with
  | nil =>
      rw [List.mapM_nil, pure_eq_ok_iff, List.forall₂_nil_left_iff]
      exact eq_comm
  | cons a rest ih =>
      simp only [List.mapM_cons, do_eq_ok_iff, pure_eq_ok_iff, ih, List.forall₂_cons_left_iff]
      constructor
      · rintro ⟨head, headEq, tail, pairs, rfl⟩
        exact ⟨head, tail, headEq, pairs, rfl⟩
      · rintro ⟨head, tail, headEq, pairs, rfl⟩
        exact ⟨head, headEq, tail, pairs, rfl⟩

/-- Where each item of a list is related to something, the list is related item by item to a list of
such. -/
theorem exists_forall₂ {related : α → β → Prop} {list : List α}
    (each : ∀ a ∈ list, ∃ b, related a b) : ∃ results, List.Forall₂ related list results := by
  induction list with
  | nil => exact ⟨[], .nil⟩
  | cons first rest ih =>
      obtain ⟨⟨b, head⟩, later⟩ := List.forall_mem_cons.mp each
      obtain ⟨results, tail⟩ := ih later
      exact ⟨b :: results, .cons head tail⟩

/-- Lists that are related item by item to one list are related to each other through its items. -/
theorem forall₂_comp {γ : Type} {first : α → β → Prop} {second : β → γ → Prop} {list : List α}
    {between : List β} {results : List γ} (pairs : List.Forall₂ first list between)
    (others : List.Forall₂ second between results) :
    List.Forall₂ (fun a c => ∃ b, first a b ∧ second b c) list results := by
  induction pairs generalizing results with
  | nil =>
      cases others
      exact .nil
  | cons head _ ih =>
      cases others with
      | cons later tail => exact .cons ⟨_, head, later⟩ (ih tail)

/-- Where lists are related item by item, each item of the second has one of the
first. -/
theorem exists_of_mem_right {related : α → β → Prop} {list : List α} {results : List β}
    (pairs : List.Forall₂ related list results) {b : β} (member : b ∈ results) :
    ∃ a ∈ list, related a b := by
  induction pairs with
  | nil => simp at member
  | cons head _ ih =>
      rcases List.mem_cons.mp member with rfl | later
      · exact ⟨_, List.mem_cons_self, head⟩
      · obtain ⟨a, listed, relatedHere⟩ := ih later
        exact ⟨a, List.mem_cons_of_mem _ listed, relatedHere⟩

/-- Where lists are related item by item, each item of the first has one of the
second. -/
theorem exists_of_mem_left {related : α → β → Prop} {list : List α} {results : List β}
    (pairs : List.Forall₂ related list results) {a : α} (member : a ∈ list) :
    ∃ b ∈ results, related a b :=
  exists_of_mem_right pairs.flip member

/-- Why an attempt fails, if it does. -/
def failure? : Except ε α → Option ε
  | .ok _ => none
  | .error f => some f

@[simp]
theorem failure?_ok (a : α) : failure? (.ok a : Except ε α) = none :=
  rfl

@[simp]
theorem failure?_error (f : ε) : failure? (.error f : Except ε α) = some f :=
  rfl

theorem failure?_eq_none_iff {attempt : Except ε α} :
    failure? attempt = none ↔ ∃ a, attempt = .ok a := by
  cases attempt <;> simp

theorem failure?_eq_some_iff {attempt : Except ε α} {f : ε} :
    failure? attempt = some f ↔ attempt = .error f := by
  cases attempt <;> simp

/-- A chain fails with the first failure in it.  Why the later attempts fail must not hang on the
results of the earlier. -/
theorem failure?_do {first : Except ε α} {next : α → Except ε β} {later : Option ε}
    (same : ∀ a, first = .ok a → failure? (next a) = later) :
    failure? (first >>= next) = (failure? first).or later := by
  cases first with
  | ok a => simpa using same a rfl
  | error f => rfl

/-- Two lists that are both obtained and joined fail with the first failure of one. -/
theorem failure?_append (first second : Except ε (List α)) :
    failure? (do
      let head ← first
      let tail ← second
      return head ++ tail) = (failure? first).or (failure? second) := by
  cases first with
  | error f => rfl
  | ok head => cases second <;> rfl

/-- Attempts on the items of a list fail with the first failure of one. -/
theorem failure?_mapM (attempt : α → Except ε β) (list : List α) :
    failure? (list.mapM attempt) = list.findSome? fun a => failure? (attempt a) := by
  induction list with
  | nil => rfl
  | cons first rest ih =>
      rw [List.mapM_cons, List.findSome?_cons, ← ih]
      cases attempt first with
      | error f => rfl
      | ok b => cases rest.mapM attempt <;> rfl

end ApiContract.Attempt
