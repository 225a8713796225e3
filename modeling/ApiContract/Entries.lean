/-!
# Ordered mappings

A mapping with an order is kept as the list of its entries.  Storing under a
key that is already there replaces the value and leaves the key where it
stands; a new key goes to the end.  So a mapping built from a list of entries
shows every key at its first place with its last value, which is the one rule
behind declared properties, documented paths and responses, lint reports and
dictionary values alike.
-/

namespace ApiContract

/-- The entries of an ordered mapping, first to last. -/
abbrev Entries (κ α : Type) := List (κ × α)

namespace Entries

variable {κ α β : Type}

/-- Store `a` under `k`, where `same` says which keys are the same.  The first
spelling of a key is kept. -/
def putBy (same : κ → κ → Bool) (k : κ) (a : α) : Entries κ α → Entries κ α
  | [] => [(k, a)]
  | (j, b) :: rest => if same j k then (j, a) :: rest else (j, b) :: putBy same k a rest

/-- Store `a` under `k`. -/
def put [BEq κ] (entries : Entries κ α) (k : κ) (a : α) : Entries κ α :=
  putBy (· == ·) k a entries

/-- The value under `k`. -/
def get? [BEq κ] (entries : Entries κ α) (k : κ) : Option α :=
  (entries.find? (·.1 == k)).map (·.2)

/-- Whether there is a value under `k`. -/
def has [BEq κ] (entries : Entries κ α) (k : κ) : Bool :=
  entries.any (·.1 == k)

/-- The keys, first to last. -/
def keys (entries : Entries κ α) : List κ :=
  entries.map (·.1)

/-- Store every entry of `more`, first to last. -/
def putAll [BEq κ] (entries more : Entries κ α) : Entries κ α :=
  more.foldl (fun m e => put m e.1 e.2) entries

/-- The mapping that storing `list` into an empty one gives. -/
def ofList [BEq κ] (list : List (κ × α)) : Entries κ α :=
  putAll [] list

/-- Apply `f` to every value. -/
def mapValues (f : α → β) (entries : Entries κ α) : Entries κ β :=
  entries.map fun e => (e.1, f e.2)

@[simp]
theorem keys_nil : keys ([] : Entries κ α) = [] :=
  rfl

@[simp]
theorem keys_cons (e : κ × α) (rest : Entries κ α) : keys (e :: rest) = e.1 :: keys rest :=
  rfl

@[simp]
theorem put_nil [BEq κ] (k : κ) (a : α) : put ([] : Entries κ α) k a = [(k, a)] :=
  rfl

theorem put_cons [BEq κ] (j k : κ) (a b : α) (rest : Entries κ α) :
    put ((j, b) :: rest) k a = if j == k then (j, a) :: rest else (j, b) :: put rest k a :=
  rfl

@[simp]
theorem get?_nil [BEq κ] (k : κ) : get? ([] : Entries κ α) k = none :=
  rfl

theorem get?_cons [BEq κ] (j k : κ) (b : α) (rest : Entries κ α) :
    get? ((j, b) :: rest) k = if j == k then some b else get? rest k := by
  by_cases h : (j == k) = true <;> simp [get?, List.find?, h]

variable [BEq κ] [LawfulBEq κ]

/-- Storing adds the key at the end unless it is there already. -/
theorem keys_put (entries : Entries κ α) (k : κ) (a : α) :
    keys (put entries k a) = if k ∈ keys entries then keys entries else keys entries ++ [k] := by
  induction entries with
  | nil => simp
  | cons e rest ih =>
    obtain ⟨j, b⟩ := e
    by_cases h : j = k
    · simp [put_cons, h]
    · have h' : (j == k) = false := by simpa using h
      have hk : ¬k = j := fun e => h e.symm
      simp only [put_cons, h', Bool.false_eq_true, if_false, keys_cons, ih, List.mem_cons, hk,
        false_or]
      by_cases m : k ∈ keys rest <;> simp [m]

/-- The value just stored is found under its key. -/
theorem get?_put_self (entries : Entries κ α) (k : κ) (a : α) :
    get? (put entries k a) k = some a := by
  induction entries with
  | nil => simp [get?_cons]
  | cons e rest ih =>
    obtain ⟨j, b⟩ := e
    by_cases h : (j == k) = true
    · simp [put_cons, h, get?_cons]
    · simp [put_cons, h, get?_cons, ih]

/-- Storing leaves every other key alone. -/
theorem get?_put_of_ne (entries : Entries κ α) {j k : κ} (a : α) (h : j ≠ k) :
    get? (put entries k a) j = get? entries j := by
  induction entries with
  | nil => simp [get?_cons, Ne.symm h]
  | cons e rest ih =>
    obtain ⟨i, b⟩ := e
    by_cases hi : i = k
    · subst hi
      simp [put_cons, get?_cons, Ne.symm h]
    · simp [put_cons, hi, get?_cons, ih]

/-- A mapping in which no key occurs twice stays one. -/
theorem nodup_keys_put (entries : Entries κ α) (k : κ) (a : α) (h : (keys entries).Nodup) :
    (keys (put entries k a)).Nodup := by
  rw [keys_put]
  by_cases m : k ∈ keys entries
  · simpa [m] using h
  · simp only [m, if_false]
    refine List.nodup_append.2 ⟨h, by simp, fun x hx y hy => ?_⟩
    obtain rfl := List.mem_singleton.1 hy
    exact fun e => m (e ▸ hx)

end Entries

end ApiContract
