import ApiContract.Proofs.Entries
import ApiContract.Proofs.Value.Parts
import ApiContract.Validator.Fields

/-!
# Plain data that are taken as they are

Handing out changes only components, and storing entries under texts that are
different moves none of them.  So what is made of plain data, and is taken as it
is, is not changed at all.  Other data may be changed, but only once: what was
taken is taken as it is when it is given again.
-/

namespace ApiContract.Value

/-! ### Handing out -/

theorem handedOutItems_eq_map (items : List Value) :
    handedOutItems items = items.map handedOut := by
  induction items with
  | nil => rfl
  | cons v rest ih => rw [handedOutItems, ih, List.map_cons]

theorem handedOutEntries_eq_map (entries : List (Value × Value)) :
    handedOutEntries entries = entries.map fun e => (e.1, e.2.handedOut) := by
  induction entries with
  | nil => rfl
  | cons e rest ih => rw [handedOutEntries, ih, List.map_cons]

/-- Plain data are handed out as they are. -/
theorem Plain.handedOut {v : Value} (plain : v.Plain) : v.handedOut = v := by
  induction v using Value.induction with
  | list items ih =>
      have same : items.map Value.handedOut = items.map id :=
        List.map_congr_left fun v member => ih v member (plain.item member)
      rw [Value.handedOut, handedOutItems_eq_map, same, List.map_id]
  | dict entries ih =>
      have same : entries.map (fun e => (e.1, e.2.handedOut)) = entries.map id :=
        List.map_congr_left fun e member => by rw [ih e.1 e.2 member (plain.entry member)]; rfl
      rw [Value.handedOut, handedOutEntries_eq_map, same, List.map_id]
  | leaf v noList noDict =>
      cases v with
      | list items => exact absurd rfl (noList items)
      | dict entries => exact absurd rfl (noDict entries)
      | component name => exact absurd (plain _ (.here _)) id
      | _ => rfl

/-- A plain list is taken as it is. -/
theorem Plain.toList {items : List Value} (plain : (list items).Plain) :
    Value.toList (.list items) = .ok (.list items) :=
  congrArg Except.ok plain.handedOut

/-- What is handed out is handed out as it is. -/
theorem handedOut_handedOut (v : Value) : v.handedOut.handedOut = v.handedOut := by
  induction v using Value.induction with
  | list items ih =>
      have same : items.map (fun v => v.handedOut.handedOut) = items.map handedOut :=
        List.map_congr_left ih
      simpa [handedOut, handedOutItems_eq_map] using same
  | dict entries ih =>
      have same : entries.map (fun e => (e.1, e.2.handedOut.handedOut)) =
          entries.map fun e => (e.1, e.2.handedOut) :=
        List.map_congr_left fun e member => by rw [ih e.1 e.2 member]
      simpa [handedOut, handedOutEntries_eq_map, Function.comp_def] using same
  | leaf v noList noDict =>
      cases v with
      | list items => exact absurd rfl (noList items)
      | dict entries => exact absurd rfl (noDict entries)
      | _ => rfl

/-- A list that is taken is taken as it is when it is given again. -/
theorem toList_of_toList {v w : Value} (taken : v.toList = .ok w) : w.toList = .ok w := by
  rw [toList] at taken
  split at taken
  · cases taken
    exact congrArg Except.ok (handedOut_handedOut (.list _))
  · cases taken

/-! ### Taking dictionaries -/

/-- Texts are keys of dictionaries that are taken as they are. -/
theorem keyProblem?_eq_none {key : Value} (text : key.isText = true) : key.keyProblem? = none := by
  cases key <;> first | rfl | simp [isText] at text

/-- Nothing is wrong with keys that are texts. -/
theorem keyProblems_eq_nil {entries : List (Value × Value)}
    (texts : ∀ e ∈ entries, e.1.isText = true) :
    entries.filterMap (fun e => e.1.keyProblem?) = [] := by
  rw [List.filterMap_eq_nil_iff]
  intro e member
  exact keyProblem?_eq_none (texts e member)

/-- Different texts are different keys. -/
theorem sameKey_eq_false {v w : Value} (vString : v.isString = true) (wString : w.isString = true)
    (different : v ≠ w) : sameKey v w = false := by
  cases v <;> simp only [isString, Bool.false_eq_true] at vString <;>
    cases w <;> simp only [isString, Bool.false_eq_true] at wString <;>
      simp_all [sameKey, text?, number?]

/-- Texts are the same key exactly if they are the same text. -/
theorem sameKey_eq_beq {v w : Value} (vString : v.isString = true) (wString : w.isString = true) :
    sameKey v w = (v == w) := by
  by_cases same : v = w
  · subst same
    cases v with
    | str | unpaired => simp [sameKey, text?]
    | _ => simp [isString] at vString
  · rw [sameKey_eq_false vString wString same, beq_false_of_ne same]

/-- The dictionary that storing entries under texts gives is the mapping that they build. -/
theorem dictOf_eq_ofList {entries : List (Value × Value)}
    (strings : ∀ e ∈ entries, e.1.isString = true) :
    dictOf entries = .dict (Entries.ofList entries) := by
  rw [dictOf]
  congr 1
  induction entries using List.reverseRecOn with
  | nil => rfl
  | append_singleton entries last ih =>
      obtain ⟨earlier, lastString⟩ := List.forall_mem_append.mp strings
      rw [List.foldl_append, ih earlier, Entries.ofList_concat]
      apply Entries.putBy_congr
      intro e member
      exact sameKey_eq_beq (earlier e (Entries.mem_ofList member))
        (lastString last (List.mem_singleton_self _))

/-- Entries with different texts for keys are those of the dictionary that storing them
gives. -/
theorem dictOf_eq_dict {entries : List (Value × Value)}
    (strings : ∀ e ∈ entries, e.1.isString = true) (distinct : (Entries.keys entries).Nodup) :
    dictOf entries = .dict entries := by
  rw [dictOf_eq_ofList strings, Entries.ofList_eq_self distinct]

/-- A text is taken as it is. -/
theorem toText_of_isString {v : Value} (string : v.isString = true) : v.toText = .ok v := by
  cases v <;> first | rfl | simp [isString] at string

/-- What is taken for a text is one. -/
theorem isString_of_toText {v w : Value} (taken : v.toText = .ok w) : w.isString = true := by
  cases v with
  | str | tag | unpaired =>
      cases taken
      rfl
  | _ => simp [toText, text?] at taken

theorem takenKey_of_isString {key : Value} (string : key.isString = true) :
    key.takenKey = key := by
  rw [takenKey, toText_of_isString string]
  rfl

/-- A dictionary with different texts for keys, in which everything is handed out already, is
taken as it is. -/
theorem toDictionary_eq_self {entries : List (Value × Value)}
    (strings : ∀ e ∈ entries, e.1.isString = true) (distinct : (Entries.keys entries).Nodup)
    (out : ∀ e ∈ entries, e.2.handedOut = e.2) :
    toDictionary (.dict entries) = .ok (.dict entries) := by
  have fine := keyProblems_eq_nil fun e member => isText_of_isString (strings e member)
  have same : entries.map (fun e => (e.1.takenKey, e.2.handedOut)) = entries.map id := by
    apply List.map_congr_left
    intro e member
    rw [takenKey_of_isString (strings e member), out e member]
    rfl
  simp only [toDictionary, fine, List.isEmpty_nil, if_true]
  rw [same, List.map_id, dictOf_eq_dict strings distinct]

/-- A plain dictionary is taken as it is. -/
theorem Plain.toDictionary {entries : List (Value × Value)} (plain : (dict entries).Plain) :
    Value.toDictionary (.dict entries) = .ok (.dict entries) :=
  toDictionary_eq_self plain.strings plain.keys fun _ member => (plain.entry member).handedOut

/-- A key of which nothing is wrong is taken for a text. -/
theorem isString_takenKey {key : Value} (fine : key.keyProblem? = none) :
    key.takenKey.isString = true := by
  cases key <;> first | rfl | simp [keyProblem?, toText, text?] at fine

/-- A dictionary that is taken is taken as it is when it is given again. -/
theorem toDictionary_of_toDictionary {v w : Value} (taken : v.toDictionary = .ok w) :
    w.toDictionary = .ok w := by
  cases v with
  | dict entries =>
      simp only [toDictionary] at taken
      split at taken
      · rename_i fine
        rw [List.isEmpty_iff, List.filterMap_eq_nil_iff] at fine
        have strings : ∀ e ∈ entries.map (fun e => (e.1.takenKey, e.2.handedOut)),
            e.1.isString = true :=
          List.forall_mem_map.mpr fun e member => isString_takenKey (fine e member)
        have out : ∀ e ∈ entries.map (fun e => (e.1.takenKey, e.2.handedOut)),
            e.2.handedOut = e.2 :=
          List.forall_mem_map.mpr fun e _ => handedOut_handedOut e.2
        rw [dictOf_eq_ofList strings] at taken
        cases taken
        -- Storing invents no entry, so what is asked of all entries holds of those that are kept.
        exact toDictionary_eq_self (fun e member => strings e (Entries.mem_ofList member))
          (Entries.nodup_keys_ofList _) fun e member => out e (Entries.mem_ofList member)
      · cases taken
  | _ => simp [toDictionary] at taken

end ApiContract.Value
