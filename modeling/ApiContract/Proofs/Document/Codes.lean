import ApiContract.Proofs.Document.Contents
import ApiContract.Proofs.Document.Displayable
import ApiContract.Proofs.Json.Writing

/-!
# Codes of responses

The code that a text names is read again from its own digits, and zeros in front of
digits change nothing.  So the codes of an endpoint's response keys and their digits tell
the same keys apart: responses share an entry of the document if their keys name the same
code, and no others do, whether the entries stand under codes or under digits.
-/

namespace ApiContract

/-! ### Digits -/

namespace Text

/-- The digits from `0` to `9` have their values as digits of any script. -/
theorem decimalValue?_of_isDigit {c : Char} (digit : c.isDigit = true) :
    decimalValue? c = some (Number.digitValue c) := by
  have range : 48 ≤ c.toNat ∧ c.toNat < 48 + 10 := by
    simp only [Char.isDigit, Bool.and_eq_true, decide_eq_true_eq, ge_iff_le,
      UInt32.le_iff_toNat_le] at digit
    change 48 ≤ c.toNat ∧ c.toNat ≤ 57 at digit
    omega
  have first : (decide (0x30 ≤ c.toNat) && decide (c.toNat < 0x30 + 10)) = true := by
    simpa using range
  rw [decimalValue?, decimalZeros, List.find?_cons, first]
  rfl

/-- Digits from `0` to `9` write the number that they always do. -/
theorem decimalNumber?_of_isDigit {digits : List Char}
    (plain : ∀ c ∈ digits, c.isDigit = true) :
    decimalNumber? digits = some (Number.ofDigits digits) := by
  induction digits using List.reverseRecOn with
  | nil => rfl
  | append_singleton digits c ih =>
      rw [List.forall_mem_append, List.forall_mem_singleton] at plain
      have value := decimalValue?_of_isDigit plain.2
      rw [decimalNumber?_concat, ih plain.1, value, Number.ofDigits, Number.ofDigits,
        List.foldl_append]
      rfl

end Text

/-- Zeros in front of digits change nothing. -/
theorem Number.ofDigits_zeros (zeros : Nat) (digits : List Char) :
    ofDigits (List.replicate zeros '0' ++ digits) = ofDigits digits := by
  induction zeros with
  | zero => rfl
  | succ zeros ih => exact ih

namespace Status

/-- The digits of a number name it, with as many zeros in front of them as are allowed. -/
theorem resolve_digits {zeros n : Nat} (fits : zeros + (toString n).length ≤ Number.digitLimit) :
    resolve (.str (String.ofList (List.replicate zeros '0') ++ toString n)) = .ok n := by
  have written : (String.ofList (List.replicate zeros '0') ++ toString n).toList =
      List.replicate zeros '0' ++ Nat.toDigits 10 n := by
    rw [String.toList_append, String.toList_ofList]
    exact congrArg _ Nat.toList_repr
  have length : (toString n).length = (Nat.toDigits 10 n).length :=
    congrArg List.length Nat.toList_repr
  have plain : ∀ c ∈ List.replicate zeros '0' ++ Nat.toDigits 10 n, c.isDigit = true := by
    rw [List.forall_mem_append]
    constructor
    · intro c member
      rw [List.eq_of_mem_replicate member]
      rfl
    · exact fun c => Nat.isDigit_of_mem_toDigits (by decide) (by decide)
  have digits : ∀ c ∈ List.replicate zeros '0' ++ Nat.toDigits 10 n, Text.isDigit c = true := by
    intro c member
    simp [Text.isDigit, Text.isDecimal, Text.decimalValue?_of_isDigit (plain c member)]
  have nonempty : (List.replicate zeros '0' ++ Nat.toDigits 10 n).isEmpty = false := by
    simp [Nat.toDigits_ne_nil]
  have short : ¬(List.replicate zeros '0' ++ Nat.toDigits 10 n).length > Number.digitLimit := by
    rw [List.length_append, List.length_replicate, ← length]
    omega
  change ofText _ = _
  rw [ofText, written, nonempty, List.all_eq_true.mpr digits, ofDigits, Bool.not_false,
    Bool.true_and, if_pos rfl, if_neg short, Text.decimalNumber?_of_isDigit plain,
    Number.ofDigits_zeros, Json.ofDigits_toDigits]

/-- A text that names a code can be read as a key. -/
theorem readable_of_ofText {text : String} {code : Int} (resolved : ofText text = .ok code) :
    ReadableText text := by
  by_contra unreadable
  rcases ofText_of_not_readable unreadable with ⟨f, failed, -⟩
  cases failed.symm.trans resolved

theorem readable_of_resolve {key : Value} {code : Int}
    (plain : key.isText = true ∨ ∃ n, key = .int n ∧ n.natAbs < Number.digitCeiling)
    (resolved : resolve key = .ok code) : Readable key := by
  rcases plain with text | ⟨n, rfl, short⟩
  · obtain ⟨t, -, read, readable⟩ := exists_shown_of_isText text
    exact readable.mpr (readable_of_ofText (read ▸ resolved))
  · exact short

/-- A text that names a code names a number that has no more digits than are allowed. -/
theorem exists_nat_of_ofText {text : String} {code : Int} (resolved : ofText text = .ok code) :
    ∃ n : Nat, code = n ∧ n < Number.digitCeiling := by
  have short : code.natAbs < Number.digitCeiling := by
    rcases ofText_cases (readable_of_ofText resolved) with ⟨other, otherEq, short⟩ | failed
    · cases otherEq.symm.trans resolved
      exact short
    · cases failed.symm.trans resolved
  have positive : 0 ≤ code := by
    rw [ofText] at resolved
    split at resolved
    · rw [ofDigits] at resolved
      split at resolved
      · cases resolved
      · split at resolved
        · cases resolved
          exact Int.natCast_nonneg _
        · cases resolved
    · split at resolved
      · rename_i found
        cases resolved
        exact (codes_lt found).1
      · cases resolved
  exact ⟨code.natAbs, (Int.natAbs_of_nonneg positive).symm, short⟩

/-- The code that a text names has digits, and they name it again. -/
theorem resolve_again {key : Value} (text : key.isText = true) {code : Int}
    (resolved : resolve key = .ok code) :
    (Value.int code).shown = .ok (toString code) ∧
      resolve (.str (toString code)) = .ok code := by
  obtain ⟨t, -, read, -⟩ := exists_shown_of_isText text
  obtain ⟨n, rfl, short⟩ := exists_nat_of_ofText (read ▸ resolved)
  constructor
  · simp [Value.shown, Value.display?, Value.quoted?, Number.intText?, short]
  · have length : (toString n).length ≤ Number.digitLimit := by
      unfold Number.digitCeiling at short
      rw [← String.length_toList]
      exact (congrArg List.length Nat.toList_repr).trans_le
        (Json.length_toDigits_le (by decide) short)
    have digits := @resolve_digits 0 n (by omega)
    rwa [List.replicate_zero, String.ofList_nil, String.empty_append] at digits

end Status

/-! ### Places -/

namespace Entries

variable {κ α β : Type}

theorem getElem?_keys_eq_some_iff {entries : Entries κ α} {p : Nat} {k : κ} :
    entries.keys[p]? = some k ↔ ∃ a, entries[p]? = some (k, a) := by
  simp [keys]

variable [BEq κ] [LawfulBEq κ]

/-- The place of the entry that an item goes to when items are made one mapping. -/
def placeOf (items : List (κ × α)) (i : Nat) : Nat :=
  items[i]?.elim 0 fun e => (ofList items).keys.idxOf e.1

variable {items : List (κ × α)} {i : Nat} {e : κ × α}

/-- An item goes to an entry under its key. -/
theorem getElem?_keys_placeOf (here : items[i]? = some e) :
    (ofList items).keys[placeOf items i]? = some e.1 := by
  have member : e.1 ∈ (ofList items).keys := by
    rw [keys_ofList, List.mem_eraseDups]
    exact List.mem_map_of_mem (List.mem_of_getElem? here)
  rw [placeOf, here, Option.elim_some]
  exact List.getElem?_idxOf member

/-- The last of the items of a key stands in the entry. -/
theorem getElem?_placeOf_of_last (here : items[i]? = some e)
    (last : ∀ j, i < j → j < items.length → placeOf items j ≠ placeOf items i) :
    (ofList items)[placeOf items i]? = some e := by
  have split : items = items.take i ++ (e.1, e.2) :: items.drop (i + 1) := by
    obtain ⟨inside, rfl⟩ := List.getElem?_eq_some_iff.mp here
    simp
  have fresh : e.1 ∉ keys (items.drop (i + 1)) := by
    intro member
    obtain ⟨f, later, same⟩ := List.mem_map.mp member
    obtain ⟨j, there⟩ := List.getElem?_of_mem later
    rw [List.getElem?_drop] at there
    obtain ⟨inside, -⟩ := List.getElem?_eq_some_iff.mp there
    apply last _ (by omega) inside
    rw [placeOf, placeOf, there, here, Option.elim_some, Option.elim_some, same]
  have found : get? (ofList items) e.1 = some e.2 := by
    rw [get?_ofList]
    exact get?_reverse_eq_some_iff.mpr ⟨_, _, split, fresh⟩
  obtain ⟨a, standing⟩ := getElem?_keys_eq_some_iff.mp (getElem?_keys_placeOf here)
  have member := List.mem_of_getElem? standing
  rw [standing, ← Option.some.inj (found.symm.trans
    ((get?_eq_some_iff (nodup_keys_ofList items)).mpr member))]

/-- Every entry is at the place of an item. -/
theorem exists_placeOf {p : Nat} (inside : p < (ofList items).length) :
    ∃ i < items.length, placeOf items i = p := by
  have bound : p < (ofList items).keys.length := by
    rwa [keys, List.length_map]
  have listed : (ofList items).keys[p] ∈ keys items := by
    rw [← List.mem_eraseDups, ← keys_ofList]
    exact List.getElem_mem bound
  obtain ⟨e, member, same⟩ := List.mem_map.mp listed
  obtain ⟨i, here⟩ := List.getElem?_of_mem member
  obtain ⟨position, -⟩ := List.getElem?_eq_some_iff.mp here
  refine ⟨i, position, ?_⟩
  rw [placeOf, here, Option.elim_some, same]
  exact (nodup_keys_ofList items).idxOf_getElem p bound

end Entries

open Value (record)

namespace Endpoint

/-- Responses as they stand in the description of an endpoint, under their codes. -/
def codesValue (described : Entries Int Mapping) : Value :=
  .dict (described.map fun r => (.int r.1, record r.2))

variable {κ α ι β : Type} {registered : String → Bool}
variable {responses : List (Value × Standing Response)} {place : Nat → Nat}

/-- Responses stand in entries, each at its place.  The entry there is under the name of the code of
the response's key, and shows the last response that has this place.  No two entries have the same
key, and every entry is at the place of some response. -/
structure Placed (responses : List (Value × Standing Response)) (entries : Entries κ α)
    (name : Int → κ) (shows : Response → α → Prop) (place : Nat → Nat) : Prop where
  distinct : entries.keys.Nodup
  under : ∀ i response code, responses[i]? = some response →
    Status.resolve response.1 = .ok code → entries.keys[place i]? = some (name code)
  last : ∀ i response, responses[i]? = some response →
    (∀ j, i < j → j < responses.length → place j ≠ place i) →
      ∃ n k a, response.2.node id = .ok n ∧ entries[place i]? = some (k, a) ∧ shows n a
  onto : ∀ p < entries.length, ∃ i < responses.length, place i = p

namespace Placed

variable {entries : Entries κ α} {name : Int → κ} {shows : Response → α → Prop}

/-- Responses share an entry exactly if their keys name the same code. -/
theorem place_eq_iff (placed : Placed responses entries name shows place)
    (distinct : Function.Injective name)
    (resolves : ∀ response ∈ responses, ∃ code, Status.resolve response.1 = .ok code)
    (i j : Fin responses.length) :
    place i = place j ↔ Status.resolve responses[i].1 = Status.resolve responses[j].1 := by
  obtain ⟨code, codeEq⟩ := resolves responses[i] (List.getElem_mem i.2)
  obtain ⟨other, otherEq⟩ := resolves responses[j] (List.getElem_mem j.2)
  have here := placed.under i _ code (List.getElem?_eq_getElem i.2) codeEq
  have there := placed.under j _ other (List.getElem?_eq_getElem j.2) otherEq
  rw [codeEq, otherEq, Except.ok.injEq]
  constructor
  · intro same
    rw [same, there, Option.some.injEq] at here
    exact distinct here.symm
  · intro same
    rw [← same] at there
    obtain ⟨inside, -⟩ := List.getElem?_eq_some_iff.mp here
    exact (List.getElem?_inj inside placed.distinct).mp (here.trans there.symm)

/-- Responses keep their places when the keys of entries get other names. -/
theorem renamed (placed : Placed responses entries name shows place) {f : κ → ι}
    {others : Entries ι β} {becomes : α → β → Prop} [BEq κ] [LawfulBEq κ] [BEq ι] [LawfulBEq ι]
    (injective : Function.Injective f) (keys : others.keys = entries.keys.map f)
    (found : ∀ k a, entries.get? k = some a → ∃ b, others.get? (f k) = some b ∧ becomes a b) :
    Placed responses others (fun code => f (name code)) (fun n b => ∃ a, shows n a ∧ becomes a b)
      place where
  distinct := keys ▸ placed.distinct.map injective
  under := by
    intro i response code here resolved
    rw [keys, List.getElem?_map, placed.under i response code here resolved, Option.map_some]
  last := by
    intro i response here last
    obtain ⟨n, k, a, node, standing, shown⟩ := placed.last i response here last
    obtain ⟨b, foundThere, become⟩ :=
      found k a ((Entries.get?_eq_some_iff placed.distinct).mpr (List.mem_of_getElem? standing))
    have key : others.keys[place i]? = some (f k) := by
      rw [keys, List.getElem?_map, Entries.getElem?_keys_eq_some_iff.mpr ⟨a, standing⟩,
        Option.map_some]
    obtain ⟨c, there⟩ := Entries.getElem?_keys_eq_some_iff.mp key
    have foundHere := (Entries.get?_eq_some_iff (keys ▸ placed.distinct.map injective)).mpr
      (List.mem_of_getElem? there)
    obtain rfl := Option.some.inj (foundThere.symm.trans foundHere)
    exact ⟨n, f k, b, node, there, a, shown, become⟩
  onto := by
    intro p inside
    apply placed.onto
    have lengths := congrArg List.length keys
    rw [List.length_map, Entries.keys, Entries.keys, List.length_map, List.length_map] at lengths
    rwa [← lengths]

end Placed

/-- Responses that are described stand in the entries by code. -/
theorem placed_describeAll {described : Entries Int Mapping}
    (entered : describeAll registered [] responses = .ok described) :
    (∀ response ∈ responses, ∃ code, Status.resolve response.1 = .ok code) ∧
      ∃ place, Placed responses described id
        (fun n m => Response.describe registered n = .ok m) place := by
  obtain ⟨built, pairs, rfl⟩ := describeAll_eq_ok_iff.mp entered
  have length := pairs.length_eq
  have item {i : Nat} {response : Value × Standing Response}
      (here : responses[i]? = some response) :
      ∃ entry, built[i]? = some entry ∧ Status.resolve response.1 = .ok entry.1 ∧
        ∃ n, response.2.node id = .ok n ∧ Response.describe registered n = .ok entry.2 := by
    obtain ⟨inside, rfl⟩ := List.getElem?_eq_some_iff.mp here
    have there : i < built.length := length ▸ inside
    exact ⟨built[i], List.getElem?_eq_getElem there, pairs.get inside there⟩
  constructor
  · intro response member
    obtain ⟨i, here⟩ := List.getElem?_of_mem member
    obtain ⟨entry, -, resolved, -⟩ := item here
    exact ⟨entry.1, resolved⟩
  · refine ⟨Entries.placeOf built, Entries.nodup_keys_ofList built, ?_, ?_, ?_⟩
    · intro i response code here resolved
      obtain ⟨entry, there, entryResolved, -⟩ := item here
      cases resolved.symm.trans entryResolved
      exact Entries.getElem?_keys_placeOf there
    · intro i response here last
      obtain ⟨entry, there, -, n, node, described⟩ := item here
      rw [length] at last
      exact ⟨n, entry.1, entry.2, node, Entries.getElem?_placeOf_of_last there last, described⟩
    · intro p inside
      rw [length]
      exact Entries.exists_placeOf inside

/-- Responses with nodes that can be displayed are described under codes, and then under digits, if
their keys name codes and have texts. -/
theorem exists_shown_responses {e : Endpoint} (declared : e.responses = .declared responses)
    (nodes : ∀ response ∈ responses, ∃ n : Response, response.2 = .declared n ∧ n.Displayable)
    (keys : ∀ response ∈ responses, response.1.isText = true ∨
      ∃ n, response.1 = .int n ∧ n.natAbs < Number.digitCeiling)
    (resolves : ∀ response ∈ responses, ∃ code, Status.resolve response.1 = .ok code) :
    ∃ described v, e.describeResponses registered = .ok described ∧
      (codesValue described).withTextKeys? = some v := by
  have compilable : ∀ response ∈ responses,
      ∃ n : Response, response.2 = .declared n ∧ n.compilable = true := by
    intro response member
    obtain ⟨n, standing, displayable⟩ := nodes response member
    exact ⟨n, standing, displayable.compilable⟩
  have described : ∃ described, describeAll registered [] responses = .ok described := by
    rw [← Attempt.failure?_eq_none_iff, failure?_describeAll registered compilable,
      List.findSome?_eq_none_iff, List.forall_mem_map]
    intro response member
    exact Attempt.failure?_eq_none_iff.mpr (resolves response member)
  obtain ⟨described, entered⟩ := described
  have shown : (codesValue described).withTextKeys?.isSome = true := by
    obtain ⟨built, pairs, rfl⟩ := describeAll_eq_ok_iff.mp entered
    rw [codesValue, Value.isSome_withTextKeys?_iff, Value.keysShown_dict_iff, List.forall_mem_map]
    intro entry member
    obtain ⟨response, listed, resolved, n, standing, describedEq⟩ :=
      Attempt.exists_of_mem_right pairs (Entries.mem_ofList member)
    constructor
    · exact isSome_display?_code (Status.readable_of_resolve (keys response listed) resolved)
        resolved
    · obtain ⟨other, declaredHere, displayable⟩ := nodes response listed
      rw [declaredHere] at standing
      cases standing
      exact Value.composes_keysShown.record
        (holds_describe_response Value.composes_keysShown displayable.madeOf describedEq)
  obtain ⟨v, converted⟩ := Option.isSome_iff_exists.mp shown
  refine ⟨described, v, ?_, converted⟩
  rw [describeResponses, declared, Held.get_declared, Attempt.ok_bind, entered]

/-- The code that a text names is named by its digits as well, and a number by its digits with zeros
in front, as long as there are not too many.  Two responses of an endpoint share an entry exactly if
their keys name the same code, whether the entries stand under codes or, afterwards, under digits:
the places of the responses are the same then.  Responses with nodes that can be displayed are
described so if their keys name codes and have texts. -/
theorem responses_share_by_code :
    (∀ key code, key.isText = true → Status.resolve key = .ok code →
      (Value.int code).shown = .ok (toString code) ∧
        Status.resolve (.str (toString code)) = .ok code) ∧
    (∀ zeros n : Nat, zeros + (toString n).length ≤ Number.digitLimit →
      Status.resolve (.str (String.ofList (List.replicate zeros '0') ++ toString n)) = .ok n) ∧
    (∀ registered e described, describeResponses registered e = .ok described →
      ∃ responses place, e.responses = .declared responses ∧
        Placed responses described id (fun n m => Response.describe registered n = .ok m) place ∧
        (∀ i j : Fin responses.length, place i = place j ↔
          Status.resolve responses[i].1 = Status.resolve responses[j].1) ∧
        ∀ v, (codesValue described).withTextKeys? = some v →
          ∃ shown, v = record shown ∧ Placed responses shown toString
            (fun n w => ∃ m, Response.describe registered n = .ok m ∧ ShownAs m w) place) ∧
    ∀ registered e responses, e.responses = .declared responses →
      (∀ response ∈ responses,
        ∃ n : Response, response.2 = .declared n ∧ Node.Displayable n) →
      (∀ response ∈ responses, response.1.isText = true ∨
        ∃ n, response.1 = .int n ∧ n.natAbs < Number.digitCeiling) →
      (∀ response ∈ responses, ∃ code, Status.resolve response.1 = .ok code) →
        ∃ described v, describeResponses registered e = .ok described ∧
          (codesValue described).withTextKeys? = some v := by
  refine ⟨fun _ _ text => Status.resolve_again text, fun _ _ => Status.resolve_digits, ?_,
    fun _ _ _ => exists_shown_responses⟩
  intro registered e described answered
  obtain ⟨responses, declared, entered⟩ := Attempt.bind_eq_ok_iff.mp answered
  obtain ⟨resolves, place, placed⟩ := placed_describeAll entered
  refine ⟨responses, place, Held.get_eq_ok_iff.mp declared, placed,
    placed.place_eq_iff Function.injective_id resolves, ?_⟩
  intro v converted
  obtain ⟨shown, rfl, keys, found⟩ := shown_codes placed.distinct converted
  exact ⟨shown, rfl, placed.renamed Value.toString_int_injective keys found⟩

/-- Responses for a code in four spellings, and for another one. -/
def spelledResponses : List (Value × Standing Response) :=
  [.str "ok", .int 200, .str "0200", .str "٢٠٠", .int 404].map fun key =>
    (key, .declared (.mk Facets.blank []))

/-- An endpoint with these responses. -/
def spelled : Endpoint :=
  { Endpoint.empty with responses := .declared spelledResponses }

/-- The four spellings share an entry, before and after the codes are made texts. -/
theorem responses_share_by_code_spelled :
    Status.resolve (.str "0200") = .ok 200 ∧ Status.resolve (.str "200") = .ok 200 ∧
      ∃ (described : Entries Int Mapping) (shown : Entries String Value) (place : Nat → Nat),
        describeResponses (fun _ => false) spelled = .ok described ∧
        (codesValue described).withTextKeys? = some (record shown) ∧
        place 0 = place 3 ∧ place 0 ≠ place 4 ∧ described.keys[place 3]? = some 200 ∧
        shown.keys[place 3]? = some "200" ∧ shown.keys[place 4]? = some "404" := by
  obtain ⟨again, digits, share, exist⟩ := responses_share_by_code
  have codes : ∀ response ∈ spelledResponses, ∃ code, Status.resolve response.1 = .ok code := by
    have clean : (spelledResponses.all fun response =>
        (Attempt.failure? (Status.resolve response.1)).isNone) = true := by
      decide +kernel
    intro response member
    exact Attempt.failure?_eq_none_iff.mp
      (Option.isNone_iff_eq_none.mp (List.all_eq_true.mp clean response member))
  have texts : ∀ response ∈ spelledResponses, response.1.isText = true ∨
      ∃ n, response.1 = .int n ∧ n.natAbs < Number.digitCeiling := by
    have short : ∀ n : Nat, n < 1000 → n < Number.digitCeiling := fun n small =>
      @Status.lt_digitCeiling n 3 small (by decide)
    simp [spelledResponses, Value.isText, short]
  have nodes : ∀ response ∈ spelledResponses,
      ∃ n : Response, response.2 = .declared n ∧ Node.Displayable n := by
    intro response member
    obtain ⟨key, -, rfl⟩ := List.mem_map.mp member
    exact ⟨_, rfl, Node.displayable_leaf ⟨by simp [Facets.blank, Facets.members],
      by simp [Facets.blank, Facets.allowed]⟩⟩
  obtain ⟨described, v, answered, converted⟩ :=
    exist (fun _ => false) spelled spelledResponses rfl nodes texts codes
  obtain ⟨responses, place, declared, placed, sameIff, after⟩ := share _ _ described answered
  obtain rfl : spelledResponses = responses := Held.declared.inj declared
  obtain ⟨shown, rfl, placedAfter⟩ := after v converted
  have four : Status.resolve (.str "٢٠٠") = .ok 200 := by decide +kernel
  refine ⟨digits 1 200 (by decide), (again (.str "ok") 200 rfl (by decide +kernel)).2, described,
    shown, place, answered, converted, ?_, ?_, ?_, ?_, ?_⟩
  · exact (sameIff ⟨0, by decide⟩ ⟨3, by decide⟩).mpr (by decide +kernel)
  · exact fun same => absurd ((sameIff ⟨0, by decide⟩ ⟨4, by decide⟩).mp same) (by decide +kernel)
  · exact placed.under 3 _ 200 rfl four
  · exact placedAfter.under 3 _ 200 rfl four
  · exact placedAfter.under 4 _ 404 rfl rfl

end Endpoint

end ApiContract
