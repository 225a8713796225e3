import ApiContract.Proofs.Value.KeysShown
import ApiContract.Proofs.Value.Leaves
import Mathlib.Data.Option.Basic

/-!
# Values with texts for keys

Replacing keys by their texts is described here by its result alone.  Lists have the
items that they had, in their order; a dictionary has the texts of its keys, each once
and at the place of the first key that displays so, with the last value under such a
key; and nothing else is changed.  There is one such result for a value, and it has no
other result of its own.
-/

namespace ApiContract.Value

/-- What stands last in a dictionary under the keys that display as a text. -/
def lastUnder (entries : List (Value × Value)) (key : Value) : Option Value :=
  (entries.reverse.find? (·.1.displayed? == some key)).map (·.2)

/-- A value is another with texts for keys. -/
inductive Normalized : Value → Value → Prop
  | leaf {v : Value} (noList : ∀ items, v ≠ .list items) (noDict : ∀ entries, v ≠ .dict entries) :
      Normalized v v
  | list {items shown : List Value} (length : items.length = shown.length)
      (each : ∀ v w, (v, w) ∈ items.zip shown → Normalized v w) :
      Normalized (.list items) (.list shown)
  | dict {entries : List (Value × Value)} {shown : Entries Value Value}
      (keys : shown.keys.map some = (entries.map (·.1.displayed?)).eraseDups)
      (each : ∀ key v w, lastUnder entries key = some v → shown.get? key = some w →
        Normalized v w) : Normalized (.dict entries) (.dict shown)

/-- An entry becomes another: its key is displayed, and its value has texts for keys. -/
def Becomes (e t : Value × Value) : Prop :=
  e.1.displayed? = some t.1 ∧ e.2.withTextKeys? = some t.2

variable {entries : List (Value × Value)} {texts shown others : Entries Value Value}
  {u v w key : Value}

/-! ### Entries one by one -/

theorem map_keys_of_becomes (pairs : List.Forall₂ Becomes entries texts) :
    texts.keys.map some = entries.map (·.1.displayed?) := by
  induction pairs with
  | nil => rfl
  | cons head _ ih => rw [Entries.keys_cons, List.map_cons, List.map_cons, ih, head.1]

/-- What is found first under a text becomes what is found first under its keys. -/
theorem withTextKeys?_of_find? (pairs : List.Forall₂ Becomes entries texts)
    (first : (entries.find? (·.1.displayed? == some key)).map (·.2) = some v)
    (found : texts.get? key = some w) : v.withTextKeys? = some w := by
  induction pairs with
  | nil => simp at found
  | @cons e t entries texts head _ ih =>
      rcases t with ⟨text, y⟩
      have same : (e.1.displayed? == some key) = (text == key) := by
        rw [head.1]
        rfl
      rw [Entries.get?_cons] at found
      by_cases here : text = key
      · rw [if_pos (by simpa using here), Option.some.injEq] at found
        rw [List.find?_cons_of_pos (by simpa [same] using here), Option.map_some,
          Option.some.injEq] at first
        exact first ▸ found ▸ head.2
      · rw [if_neg (by simpa using here)] at found
        rw [List.find?_cons_of_neg (by simpa [same] using here)] at first
        exact ih first found

/-- What is stored last under a text becomes what stands last under its keys. -/
theorem withTextKeys?_of_lastUnder (pairs : List.Forall₂ Becomes entries texts)
    (last : lastUnder entries key = some v) (found : (Entries.ofList texts).get? key = some w) :
    v.withTextKeys? = some w := by
  rw [Entries.get?_ofList] at found
  exact withTextKeys?_of_find? (List.forall₂_reverse_iff.mpr pairs) last found

theorem exists_lastUnder (displayed : some key ∈ entries.map (·.1.displayed?)) :
    ∃ v, lastUnder entries key = some v ∧ ∃ k, (k, v) ∈ entries := by
  obtain ⟨e, listed, same⟩ := List.mem_map.mp displayed
  have inside : (entries.reverse.find? (·.1.displayed? == some key)).isSome = true :=
    List.find?_isSome.mpr ⟨e, List.mem_reverse.mpr listed, by simpa using same⟩
  obtain ⟨last, found⟩ := Option.isSome_iff_exists.mp inside
  refine ⟨last.2, by rw [lastUnder, found, Option.map_some], last.1, ?_⟩
  exact List.mem_reverse.mp (List.mem_of_find?_eq_some found)

/-! ### The result of replacing keys -/

theorem eraseDups_map_some (list : List Value) :
    (list.map some).eraseDups = list.eraseDups.map some := by
  induction list using List.reverseRecOn with
  | nil => rfl
  | append_singleton list last ih =>
      rw [List.map_append, List.map_singleton, Entries.eraseDups_concat, Entries.eraseDups_concat,
        ih]
      by_cases known : last ∈ list <;> simp [known]

/-- Replacing keys by their texts normalizes a value. -/
theorem normalized_of_withTextKeys? (converted : v.withTextKeys? = some w) : v.Normalized w := by
  induction v using Value.induction generalizing w with
  | list items ih =>
      rw [withTextKeys?, Option.map_eq_some_iff] at converted
      obtain ⟨shown, shownEq, rfl⟩ := converted
      obtain ⟨length, pairs⟩ :=
        List.forall₂_iff_zip.mp (itemsWithTextKeys?_eq_some_iff.mp shownEq)
      refine .list length fun x y member => ?_
      exact ih x (List.of_mem_zip member).1 (pairs member)
  | dict entries ih =>
      rw [withTextKeys?, Option.map_eq_some_iff] at converted
      obtain ⟨texts, textsEq, rfl⟩ := converted
      have pairs : List.Forall₂ Becomes entries texts :=
        entriesWithTextKeys?_eq_some_iff.mp textsEq
      have keys := map_keys_of_becomes pairs
      constructor
      · rw [Entries.keys_ofList, ← keys, eraseDups_map_some]
      · intro key x y last found
        have listed : key ∈ Entries.keys texts := by
          have inside := Entries.isSome_get?_iff.mp (Option.isSome_of_eq_some found)
          rwa [Entries.keys_ofList, List.mem_eraseDups] at inside
        obtain ⟨x', lastEq, k, member⟩ :=
          exists_lastUnder (keys ▸ List.mem_map_of_mem listed)
        obtain rfl : x = x' := Option.some.inj (last.symm.trans lastEq)
        exact ih k x member (withTextKeys?_of_lastUnder pairs last found)
  | leaf v noList noDict =>
      rw [withTextKeys?_of_leaf noList noDict, Option.some.injEq] at converted
      exact converted ▸ .leaf noList noDict

/-- Items of two lists that have one number are paired. -/
theorem mem_zip_of_lt {α β : Type} {first : List α} {second : List β} {i : Nat}
    (here : i < first.length) (there : i < second.length) :
    (first[i], second[i]) ∈ first.zip second :=
  List.mem_iff_getElem.mpr ⟨i, by rw [List.length_zip]; omega, List.getElem_zip⟩

/-- A value has one normal form. -/
theorem Normalized.unique (first : v.Normalized u) (second : v.Normalized w) : u = w := by
  induction first generalizing w with
  | @leaf v noList noDict =>
      cases second with
      | leaf => rfl
      | list => exact absurd rfl (noList _)
      | dict => exact absurd rfl (noDict _)
  | @list items shown length each ih =>
      cases second with
      | leaf noList => exact absurd rfl (noList _)
      | @list _ others othersLength othersEach =>
          refine congrArg Value.list (List.ext_getElem (length.symm.trans othersLength) ?_)
          intro i here there
          have place : i < items.length := length ▸ here
          exact ih _ _ (mem_zip_of_lt place here) (othersEach _ _ (mem_zip_of_lt place there))
  | @dict entries shown keys each ih =>
      cases second with
      | leaf _ noDict => exact absurd rfl (noDict _)
      | @dict _ others othersKeys othersEach =>
          have keysEq : shown.keys = others.keys :=
            List.map_injective_iff.mpr (Option.some_injective _) (keys.trans othersKeys.symm)
          have distinct : shown.keys.Nodup :=
            List.Nodup.of_map _ (keys ▸ Entries.nodup_eraseDups _)
          refine congrArg Value.dict (Entries.eq_of_keys_of_get? keysEq distinct ?_)
          intro key x y found foundToo
          have listed : some key ∈ entries.map (·.1.displayed?) := by
            rw [← List.mem_eraseDups, ← keys]
            exact List.mem_map_of_mem
              (Entries.isSome_get?_iff.mp (Option.isSome_of_eq_some found))
          obtain ⟨v, last, -⟩ := exists_lastUnder listed
          exact ih key v x last found (othersEach key v y last foundToo)

/-- A value with texts for keys is what it becomes when keys are replaced by their texts, which
succeeds if all of them can be displayed. -/
theorem withTextKeys?_eq_some_iff : v.withTextKeys? = some w ↔ v.KeysShown ∧ v.Normalized w := by
  constructor
  · intro converted
    exact ⟨isSome_withTextKeys?_iff.mp (Option.isSome_of_eq_some converted),
      normalized_of_withTextKeys? converted⟩
  · rintro ⟨shown, normalized⟩
    obtain ⟨u, converted⟩ := Option.isSome_iff_exists.mp (isSome_withTextKeys?_iff.mpr shown)
    rw [converted, (normalized_of_withTextKeys? converted).unique normalized]

/-- Where keys are different texts already, nothing is replaced. -/
theorem Recorded.withTextKeys?_eq_self (recorded : v.Recorded) : v.withTextKeys? = some v := by
  induction v using Value.induction with
  | list items ih =>
      rw [withTextKeys?, Option.map_eq_some_iff]
      refine ⟨items, itemsWithTextKeys?_eq_some_iff.mpr ?_, rfl⟩
      exact List.forall₂_same.mpr fun x member => ih x member (recorded.item member)
  | dict entries ih =>
      obtain ⟨strings, distinct⟩ := recorded entries (.here _)
      have each : List.Forall₂ Becomes entries entries := by
        refine List.forall₂_same.mpr fun e member => ?_
        exact ⟨displayed?_of_isString (strings e member),
          ih e.1 e.2 member (recorded.entry member)⟩
      rw [withTextKeys?, Option.map_eq_some_iff]
      refine ⟨entries, entriesWithTextKeys?_eq_some_iff.mpr each, ?_⟩
      rw [Entries.ofList_eq_self distinct]
  | leaf v noList noDict => exact withTextKeys?_of_leaf noList noDict

end ApiContract.Value
