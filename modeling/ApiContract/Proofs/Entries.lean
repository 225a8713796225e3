import ApiContract.Entries
import Mathlib.Data.List.Induction
import Mathlib.Data.List.Nodup

/-!
# Theory of ordered mappings

Storing neither loses a key nor invents an entry, so a mapping that is built
from a list of entries shows every key once, where it stands first in the list,
and with the value that stands last.  A list in which no key repeats is the
mapping that it builds.
-/

namespace ApiContract.Entries

variable {κ α β : Type}

@[simp]
theorem keys_mapValues (f : α → β) (entries : Entries κ α) :
    keys (mapValues f entries) = keys entries := by
  simp [keys, mapValues, Function.comp_def]

theorem get?_mapValues [BEq κ] (f : α → β) (entries : Entries κ α) (k : κ) :
    get? (mapValues f entries) k = (get? entries k).map f := by
  simp only [get?, mapValues, List.find?_map, Option.map_map]
  rfl

/-- What is found in two mappings, one after the other, is found in the first or else in the
second. -/
theorem get?_append [BEq κ] (first second : Entries κ α) (k : κ) :
    get? (first ++ second) k = (get? first k).or (get? second k) := by
  cases found : first.find? (·.1 == k) <;> simp [get?, List.find?_append, found]

/-- Under other names for the keys, different ones for different keys, the same is found. -/
theorem get?_mapKeys {ι : Type} [BEq κ] [LawfulBEq κ] [BEq ι] [LawfulBEq ι] {name : κ → ι}
    (injective : Function.Injective name) (entries : Entries κ α) (k : κ) :
    get? (entries.map fun e => (name e.1, e.2)) (name k) = get? entries k := by
  induction entries with
  | nil => rfl
  | cons e rest ih =>
      rcases e with ⟨j, b⟩
      rw [List.map_cons, get?_cons, get?_cons, ih]
      by_cases equal : j = k
      · simp [equal]
      · simp [equal, injective.ne equal]

/-- What is found under a key is found among the entries that are kept, if they are chosen by their
keys and this key is kept. -/
theorem get?_filter [BEq κ] [LawfulBEq κ] (entries : Entries κ α) {p : κ → Bool} {k : κ}
    (kept : p k = true) : get? (entries.filter fun e => p e.1) k = get? entries k := by
  have same : (fun e : κ × α => decide (p e.1 = true ∧ (e.1 == k) = true)) = (·.1 == k) := by
    funext e
    by_cases equal : e.1 = k <;> simp [equal, kept]
  rw [get?, get?, List.find?_filter, same]

/-- Storing leaves at least one entry behind. -/
theorem putBy_ne_nil (same : κ → κ → Bool) (k : κ) (a : α) (entries : Entries κ α) :
    putBy same k a entries ≠ [] := by
  cases entries with
  | nil => simp [putBy]
  | cons e rest =>
      simp only [putBy]
      split <;> simp

/-- An entry after storing was there before, or holds what was stored. -/
theorem mem_putBy {same : κ → κ → Bool} {k : κ} {a : α} {entries : Entries κ α} {e : κ × α}
    (member : e ∈ putBy same k a entries) : e ∈ entries ∨ e.2 = a := by
  induction entries with
  | nil =>
      have stored : e = (k, a) := by simpa [putBy] using member
      exact Or.inr (congrArg Prod.snd stored)
  | cons first rest ih =>
      rw [putBy] at member
      split at member
      · rcases List.mem_cons.mp member with rfl | later
        · exact Or.inr rfl
        · exact Or.inl (List.mem_cons_of_mem _ later)
      · rcases List.mem_cons.mp member with rfl | later
        · exact Or.inl List.mem_cons_self
        · exact (ih later).imp_left (List.mem_cons_of_mem _)

/-- A key after storing was there before, or is the one under which something was stored. -/
theorem key_of_mem_putBy {same : κ → κ → Bool} {k : κ} {a : α} {entries : Entries κ α}
    {e : κ × α} (member : e ∈ putBy same k a entries) : e.1 = k ∨ e.1 ∈ keys entries := by
  induction entries with
  | nil =>
      have stored : e = (k, a) := by simpa [putBy] using member
      exact Or.inl (congrArg Prod.fst stored)
  | cons first rest ih =>
      rw [putBy] at member
      rw [keys_cons, List.mem_cons]
      split at member
      · rcases List.mem_cons.mp member with rfl | later
        · exact Or.inr (Or.inl rfl)
        · exact Or.inr (Or.inr (List.mem_map_of_mem later))
      · rcases List.mem_cons.mp member with rfl | later
        · exact Or.inr (Or.inl rfl)
        · exact (ih later).imp_right Or.inr

/-- Storing under a key that is the same as none before appends the entry. -/
theorem putBy_of_fresh {same : κ → κ → Bool} {k : κ} {entries : Entries κ α}
    (fresh : ∀ e ∈ entries, same e.1 k = false) (a : α) :
    putBy same k a entries = entries ++ [(k, a)] := by
  induction entries with
  | nil => rfl
  | cons first rest ih =>
      obtain ⟨different, later⟩ := List.forall_mem_cons.mp fresh
      simp [putBy, different, ih later]

/-- Storing depends on nothing but which of the keys before are the same. -/
theorem putBy_congr {same other : κ → κ → Bool} {k : κ} {entries : Entries κ α}
    (agree : ∀ e ∈ entries, same e.1 k = other e.1 k) (a : α) :
    putBy same k a entries = putBy other k a entries := by
  induction entries with
  | nil => rfl
  | cons first rest ih =>
      obtain ⟨here, later⟩ := List.forall_mem_cons.mp agree
      rw [putBy, putBy, here, ih later]

/-- What is stored stands at the first key that is the same, or else at the end. -/
theorem exists_getElem?_putBy (same : κ → κ → Bool) (k : κ) (a : α) (entries : Entries κ α) :
    ∃ j, (putBy same k a entries)[entries.findIdx fun e => same e.1 k]? = some (j, a) := by
  induction entries with
  | nil => exact ⟨k, rfl⟩
  | cons first rest ih =>
      rcases first with ⟨j, b⟩
      rw [putBy, List.findIdx_cons]
      cases same j k with
      | true => exact ⟨j, rfl⟩
      | false => exact ih

/-- To change what was stored is to store what was changed. -/
theorem modify_putBy (same : κ → κ → Bool) (k : κ) (a : α) (entries : Entries κ α) (f : α → α) :
    (putBy same k a entries).modify (entries.findIdx fun e => same e.1 k)
      (fun e => (e.1, f e.2)) = putBy same k (f a) entries := by
  induction entries with
  | nil => rfl
  | cons first rest ih =>
      rcases first with ⟨j, b⟩
      rw [putBy, putBy, List.findIdx_cons]
      cases same j k with
      | true => rfl
      | false => exact congrArg ((j, b) :: ·) ih

/-- The value under a key, where `same` says which keys are the same. -/
def getBy? (same : κ → κ → Bool) (entries : Entries κ α) (k : κ) : Option α :=
  (entries.find? (same ·.1 k)).map (·.2)

theorem getBy?_cons (same : κ → κ → Bool) (j q : κ) (b : α) (rest : Entries κ α) :
    getBy? same ((j, b) :: rest) q = if same j q then some b else getBy? same rest q := by
  by_cases found : same j q = true <;> simp [getBy?, found]

/-- Storing changes what is found under keys that are the same, if keys are compared by how they
are spelled. -/
theorem getBy?_putBy {γ : Type} {same : κ → κ → Bool} {spelling : κ → γ} {k q : κ}
    (stored : ∀ j, same j k = true ↔ spelling j = spelling k)
    (sought : ∀ j, same j q = true ↔ spelling j = spelling q) (entries : Entries κ α) (a : α) :
    getBy? same (putBy same k a entries) q =
      if same k q then some a else getBy? same entries q := by
  induction entries with
  | nil => rw [putBy, getBy?_cons]
  | cons first rest ih =>
      rcases first with ⟨j, b⟩
      rw [putBy, getBy?_cons]
      by_cases here : same j k = true
      · have agree : same j q = same k q := by
          rw [Bool.eq_iff_iff, sought, sought, (stored j).mp here]
        rw [if_pos here, getBy?_cons, agree]
        by_cases found : same k q = true <;> simp [found]
      · rw [if_neg here, getBy?_cons, ih]
        by_cases found : same k q = true
        · have apart : ¬same j q = true := by
            rw [sought, ← (sought k).mp found, ← stored]
            exact here
          simp [found, apart]
        · simp [found]

variable [BEq κ]

@[simp]
theorem putAll_nil (entries : Entries κ α) : putAll entries [] = entries :=
  rfl

theorem putAll_append (entries : Entries κ α) (more others : List (κ × α)) :
    putAll entries (more ++ others) = putAll (putAll entries more) others := by
  simp [putAll, List.foldl_append]

/-- Storing two lists, one after the other, is storing their concatenation. -/
theorem putAll_ofList (list more : List (κ × α)) :
    putAll (ofList list) more = ofList (list ++ more) := by
  simp [ofList, putAll_append]

theorem ofList_concat (list : List (κ × α)) (e : κ × α) :
    ofList (list ++ [e]) = put (ofList list) e.1 e.2 := by
  rw [← putAll_ofList]
  rfl

/-- A mapping is empty only if nothing was stored: no later entry removes an
earlier one. -/
theorem ofList_eq_nil_iff {list : List (κ × α)} : ofList list = [] ↔ list = [] := by
  constructor
  · intro empty
    induction list using List.reverseRecOn with
    | nil => rfl
    | append_singleton list last ih =>
        rw [ofList_concat] at empty
        exact absurd empty (putBy_ne_nil _ _ _ _)
  · rintro rfl
    rfl

variable [LawfulBEq κ]

/-- An entry after storing was there before, or is the one that was stored. -/
theorem mem_put {entries : Entries κ α} {k : κ} {a : α} {e : κ × α}
    (member : e ∈ put entries k a) : e ∈ entries ∨ e = (k, a) := by
  induction entries with
  | nil => exact Or.inr (by simpa using member)
  | cons first rest ih =>
      rcases first with ⟨j, b⟩
      rw [put_cons] at member
      split at member
      · rename_i found
        obtain rfl : j = k := by simpa using found
        rcases List.mem_cons.mp member with rfl | later
        · exact Or.inr rfl
        · exact Or.inl (List.mem_cons_of_mem _ later)
      · rcases List.mem_cons.mp member with rfl | later
        · exact Or.inl List.mem_cons_self
        · exact (ih later).imp_left (List.mem_cons_of_mem _)

/-- What is stored last under a key stands there. -/
theorem put_put_self (entries : Entries κ α) (k : κ) (a b : α) :
    put (put entries k a) k b = put entries k b := by
  induction entries with
  | nil => simp [put_cons]
  | cons first rest ih =>
      rcases first with ⟨j, c⟩
      by_cases equal : j = k <;> simp [put_cons, equal, ih]

omit [LawfulBEq κ] in
/-- Storing what stands under a key changes nothing. -/
theorem put_of_get? {entries : Entries κ α} {k : κ} {a : α} (found : get? entries k = some a) :
    put entries k a = entries := by
  induction entries with
  | nil => simp at found
  | cons first rest ih =>
      rcases first with ⟨j, c⟩
      rw [get?_cons] at found
      rw [put_cons]
      split at found
      · rw [if_pos ‹_›, Option.some.inj found]
      · rw [if_neg ‹_›, ih found]

/-- Storing a list invents no entry. -/
theorem mem_ofList {list : List (κ × α)} {e : κ × α} (member : e ∈ ofList list) : e ∈ list := by
  induction list using List.reverseRecOn with
  | nil => simp [ofList] at member
  | append_singleton list last ih =>
      rw [ofList_concat] at member
      rcases mem_put member with earlier | rfl
      · exact List.mem_append_left _ (ih earlier)
      · simp

/-- One more item stands at the end unless it is among those before. -/
theorem eraseDups_concat (list : List κ) (k : κ) :
    (list ++ [k]).eraseDups = if k ∈ list then list.eraseDups else list.eraseDups ++ [k] := by
  rw [List.eraseDups_append]
  by_cases known : k ∈ list
  · simp [known, List.removeAll]
  · simp [known, List.removeAll, List.eraseDups_cons]

theorem nodup_eraseDups (list : List κ) : list.eraseDups.Nodup := by
  induction list using List.reverseRecOn with
  | nil => exact List.nodup_nil
  | append_singleton list k ih =>
      rw [eraseDups_concat]
      split
      · exact ih
      · rename_i fresh
        rw [← List.concat_eq_append]
        exact ih.concat fun member => fresh (List.mem_eraseDups.mp member)

/-- Every key stands where it is stored first. -/
theorem keys_ofList (list : List (κ × α)) : keys (ofList list) = (keys list).eraseDups := by
  induction list using List.reverseRecOn with
  | nil => rfl
  | append_singleton list last ih =>
      have keysEq : keys (list ++ [last]) = keys list ++ [last.1] := by simp [keys]
      rw [ofList_concat, keys_put, ih, keysEq, eraseDups_concat]
      simp only [List.mem_eraseDups]

/-- Every key has the value that is stored last. -/
theorem get?_ofList (list : List (κ × α)) (k : κ) :
    get? (ofList list) k = get? list.reverse k := by
  induction list using List.reverseRecOn with
  | nil => rfl
  | append_singleton list last ih =>
      rw [ofList_concat, List.reverse_append, List.reverse_singleton, List.singleton_append]
      rcases last with ⟨j, b⟩
      rw [get?_cons]
      by_cases equal : j = k
      · subst equal
        simp [get?_put_self]
      · simp [get?_put_of_ne _ _ (Ne.symm equal), ih, equal]

/-- What is stored in the second of two lists stands before what is stored in the first. -/
theorem get?_ofList_append (first second : List (κ × α)) (k : κ) :
    get? (ofList (first ++ second)) k = (get? (ofList second) k).or (get? (ofList first) k) := by
  rw [get?_ofList, get?_ofList, get?_ofList, List.reverse_append, get?_append]

/-- What is found under a key from the end stands in an entry after which the key does not occur. -/
theorem get?_reverse_eq_some_iff {list : List (κ × α)} {k : κ} {a : α} :
    get? list.reverse k = some a ↔
      ∃ before after, list = before ++ (k, a) :: after ∧ k ∉ keys after := by
  simp only [get?, Option.map_eq_some_iff, List.find?_eq_some_iff_append]
  constructor
  · rintro ⟨⟨j, b⟩, ⟨same, after, before, split, other⟩, rfl⟩
    obtain rfl : j = k := by simpa using same
    refine ⟨before.reverse, after.reverse, ?_, ?_⟩
    · rw [← list.reverse_reverse, split]
      simp
    · intro member
      obtain ⟨e, listed, equal⟩ := List.mem_map.mp member
      simpa [equal] using other e (List.mem_reverse.mp listed)
  · rintro ⟨before, after, rfl, fresh⟩
    refine ⟨(k, a), ⟨by simp, after.reverse, before.reverse, by simp, ?_⟩, rfl⟩
    intro e listed
    have different : e.1 ≠ k := fun equal =>
      fresh (List.mem_map.mpr ⟨e, List.mem_reverse.mp listed, equal⟩)
    simpa using different

/-- No key of a mapping that was built from a list occurs twice. -/
theorem nodup_keys_ofList (list : List (κ × α)) : (keys (ofList list)).Nodup := by
  rw [keys_ofList]
  exact nodup_eraseDups _

/-- Storing under a new key appends the entry. -/
theorem put_of_not_mem {entries : Entries κ α} {k : κ} (fresh : k ∉ keys entries) (a : α) :
    put entries k a = entries ++ [(k, a)] := by
  refine putBy_of_fresh ?_ a
  intro e member
  rw [beq_eq_false_iff_ne]
  rintro rfl
  exact fresh (List.mem_map_of_mem member)

/-- A list in which no key occurs twice is the mapping that it builds. -/
theorem ofList_eq_self {list : List (κ × α)} (distinct : (keys list).Nodup) :
    ofList list = list := by
  induction list using List.reverseRecOn with
  | nil => rfl
  | append_singleton list last ih =>
      have keysEq : keys (list ++ [last]) = keys list ++ [last.1] := by simp [keys]
      rw [keysEq, ← List.concat_eq_append, List.nodup_concat] at distinct
      rw [ofList_concat, ih distinct.2, put_of_not_mem distinct.1]

/-- The value under a key stands in an entry. -/
theorem mem_of_get? {entries : Entries κ α} {k : κ} {a : α} (found : get? entries k = some a) :
    (k, a) ∈ entries := by
  induction entries with
  | nil => simp at found
  | cons first rest ih =>
      rcases first with ⟨j, b⟩
      rw [get?_cons] at found
      split at found
      · rename_i equal
        obtain rfl : j = k := by simpa using equal
        obtain rfl : b = a := by simpa using found
        exact List.mem_cons_self
      · exact List.mem_cons_of_mem _ (ih found)

/-- Something is found under every key, and under nothing else. -/
theorem isSome_get?_iff {entries : Entries κ α} {k : κ} :
    (get? entries k).isSome = true ↔ k ∈ keys entries := by
  induction entries with
  | nil => simp
  | cons first rest ih =>
      rcases first with ⟨j, b⟩
      rw [get?_cons, keys_cons, List.mem_cons, ← ih]
      by_cases equal : j = k
      · simp [equal]
      · simp [equal, Ne.symm equal]

/-- Something is found under the keys of a list, and under no others, once it is stored. -/
theorem isSome_get?_ofList_iff {list : List (κ × α)} {k : κ} :
    (get? (ofList list) k).isSome ↔ ∃ a, (k, a) ∈ list := by
  rw [isSome_get?_iff, keys_ofList, List.mem_eraseDups, keys]
  simp

theorem get?_eq_none_iff {entries : Entries κ α} {k : κ} :
    get? entries k = none ↔ k ∉ keys entries := by
  rw [← isSome_get?_iff, Option.not_isSome_iff_eq_none]

/-- Where no key occurs twice, an entry is what is found under its key. -/
theorem get?_eq_some_iff {entries : Entries κ α} (distinct : (keys entries).Nodup) {k : κ}
    {a : α} : get? entries k = some a ↔ (k, a) ∈ entries := by
  constructor
  · exact mem_of_get?
  · intro member
    induction entries with
    | nil => simp at member
    | cons first rest ih =>
        rcases first with ⟨j, b⟩
        rw [keys_cons, List.nodup_cons] at distinct
        rw [get?_cons]
        rcases List.mem_cons.mp member with equal | later
        · cases equal
          simp
        · have different : j ≠ k := by
            rintro rfl
            exact distinct.1 (List.mem_map.mpr ⟨_, later, rfl⟩)
          simp [different, ih distinct.2 later]

/-- Where no key occurs twice, there is one value under a key. -/
theorem eq_of_mem {entries : Entries κ α} (distinct : (keys entries).Nodup) {k : κ} {a b : α}
    (first : (k, a) ∈ entries) (second : (k, b) ∈ entries) : a = b := by
  rw [← get?_eq_some_iff distinct] at first second
  exact Option.some.inj (first.symm.trans second)

/-- Mappings with the same keys, each once, are equal if the same is found under each. -/
theorem eq_of_keys_of_get? {first second : Entries κ α} (keysEq : first.keys = second.keys)
    (distinct : first.keys.Nodup)
    (same : ∀ k a b, first.get? k = some a → second.get? k = some b → a = b) : first = second := by
  have length : first.length = second.length := by
    simpa [keys] using congrArg List.length keysEq
  refine List.ext_getElem length fun i here there => ?_
  have keyEq : first[i].1 = second[i].1 := by
    have keysHere : i < first.keys.length := by simpa [keys] using here
    simpa [keys] using List.getElem_of_eq keysEq keysHere
  have found : first.get? first[i].1 = some first[i].2 :=
    (get?_eq_some_iff distinct).mpr (List.getElem_mem here)
  have foundThere : second.get? first[i].1 = some second[i].2 := by
    rw [keyEq, get?_eq_some_iff (keysEq ▸ distinct)]
    exact List.getElem_mem there
  exact Prod.ext keyEq (same _ _ _ found foundThere)

end ApiContract.Entries
