import ApiContract.Proofs.Attempt
import ApiContract.Proofs.Entries
import ApiContract.Proofs.Value.Parts
import ApiContract.Validator.Fields
import ApiContract.Value.TextKeys
import Mathlib.Data.List.Forall2

/-!
# What stands in a value with texts for keys

Replacing keys by their texts moves nothing: whatever the result holds under a
text comes from something that the value holds under a key with that text.  In a
record, where keys are different texts already, everything stays where it is.
-/

namespace ApiContract.Value

/-- What a value displays as is a text. -/
theorem isString_of_displayed? {v text : Value} (shown : v.displayed? = some text) :
    text.isString = true := by
  cases v with
  | unpaired codes =>
      cases shown
      rfl
  | _ =>
      rw [displayed?_of_ne (by simp)] at shown
      obtain ⟨s, -, rfl⟩ := Option.map_eq_some_iff.mp shown
      rfl

/-- A text displays as itself. -/
theorem displayed?_of_isString {v : Value} (string : v.isString = true) :
    v.displayed? = some v := by
  cases v with
  | str | unpaired => rfl
  | _ => cases string

/-- A dictionary holds something under a key that displays as a text. -/
def Holds (v key w : Value) : Prop :=
  ∃ entries k, v = .dict entries ∧ (k, w) ∈ entries ∧ k.displayed? = some key

theorem holds_dict_iff {entries : List (Value × Value)} {key w : Value} :
    (Value.dict entries).Holds key w ↔ ∃ k, (k, w) ∈ entries ∧ k.displayed? = some key := by
  constructor
  · rintro ⟨others, k, equal, member, shown⟩
    cases equal
    exact ⟨k, member, shown⟩
  · rintro ⟨k, member, shown⟩
    exact ⟨entries, k, rfl, member, shown⟩

/-- A record holds its entries. -/
@[simp]
theorem holds_record_iff {entries : Entries String Value} {key : String} {w : Value} :
    (record entries).Holds (.str key) w ↔ (key, w) ∈ entries := by
  rw [record, holds_dict_iff]
  constructor
  · rintro ⟨k, member, shown⟩
    obtain ⟨⟨name, v⟩, entry, equal⟩ := List.mem_map.mp member
    cases equal
    obtain rfl : name = key := by simpa using shown
    exact entry
  · intro member
    exact ⟨.str key, List.mem_map.mpr ⟨(key, w), member, rfl⟩, rfl⟩

/-- What a record holds stands under one of its keys. -/
theorem exists_of_holds_record {entries : Entries String Value} {key w : Value}
    (held : (record entries).Holds key w) : ∃ name, key = .str name ∧ (name, w) ∈ entries := by
  obtain ⟨k, member, shown⟩ := holds_dict_iff.mp held
  obtain ⟨⟨name, v⟩, entry, equal⟩ := List.mem_map.mp member
  cases equal
  cases shown
  exact ⟨name, rfl, entry⟩

/-- A record is read back from the dictionary that it is kept as. -/
@[simp]
theorem record_inj {a b : Entries String Value} : record a = record b ↔ a = b := by
  have pairs : Function.Injective fun e : String × Value => (Value.str e.1, e.2) := by
    rintro ⟨j, v⟩ ⟨k, w⟩ equal
    simpa using equal
  rw [record, record, Value.dict.injEq, (List.map_injective_iff.mpr pairs).eq_iff]

/-- The keys of a record are texts, and different if the names are. -/
theorem keys_record (entries : Entries String Value) :
    Entries.keys (entries.map fun e => (Value.str e.1, e.2)) = entries.keys.map .str := by
  rw [Entries.keys, Entries.keys, List.map_map, List.map_map]
  rfl

/-! ### Where the entries of a result come from -/

/-- The items of a list are converted one by one. -/
theorem itemsWithTextKeys?_eq_some_iff {items converted : List Value} :
    itemsWithTextKeys? items = some converted ↔
      List.Forall₂ (fun v w => v.withTextKeys? = some w) items converted := by
  induction items generalizing converted with
  | nil =>
      rw [itemsWithTextKeys?, Option.some.injEq, List.forall₂_nil_left_iff]
      exact eq_comm
  | cons v rest ih =>
      simp only [itemsWithTextKeys?, Option.bind_eq_bind, Option.pure_def,
        Option.bind_eq_some_iff, Option.some.injEq, ih, List.forall₂_cons_left_iff]
      constructor
      · rintro ⟨head, headEq, tail, pairs, rfl⟩
        exact ⟨head, tail, headEq, pairs, rfl⟩
      · rintro ⟨head, tail, headEq, pairs, rfl⟩
        exact ⟨head, headEq, tail, pairs, rfl⟩

/-- So are the entries of a dictionary, under the texts of their keys. -/
theorem entriesWithTextKeys?_eq_some_iff {entries texts : List (Value × Value)} :
    entriesWithTextKeys? entries = some texts ↔
      List.Forall₂ (fun e t => e.1.displayed? = some t.1 ∧ e.2.withTextKeys? = some t.2)
        entries texts := by
  induction entries generalizing texts with
  | nil =>
      rw [entriesWithTextKeys?, Option.some.injEq, List.forall₂_nil_left_iff]
      exact eq_comm
  | cons entry rest ih =>
      rcases entry with ⟨k, v⟩
      simp only [entriesWithTextKeys?, Option.bind_eq_bind, Option.pure_def,
        Option.bind_eq_some_iff, Option.some.injEq, ih, List.forall₂_cons_left_iff]
      constructor
      · rintro ⟨key, shown, w, becomes, tail, pairs, rfl⟩
        exact ⟨(key, w), tail, ⟨shown, becomes⟩, pairs, rfl⟩
      · rintro ⟨⟨key, w⟩, tail, ⟨shown, becomes⟩, pairs, rfl⟩
        exact ⟨key, shown, w, becomes, tail, pairs, rfl⟩

/-- An entry with its text comes from an entry. -/
theorem mem_entriesWithTextKeys? {entries texts : List (Value × Value)}
    (converted : entriesWithTextKeys? entries = some texts) {key w : Value}
    (member : (key, w) ∈ texts) :
    ∃ k v, (k, v) ∈ entries ∧ k.displayed? = some key ∧ v.withTextKeys? = some w := by
  obtain ⟨⟨k, v⟩, listed, shown, becomes⟩ :=
    Attempt.exists_of_mem_right (entriesWithTextKeys?_eq_some_iff.mp converted) member
  exact ⟨k, v, listed, shown, becomes⟩

/-- The keys of entries with texts for keys are texts. -/
theorem isString_of_mem_entriesWithTextKeys? {entries texts : List (Value × Value)}
    (converted : entriesWithTextKeys? entries = some texts) :
    ∀ t ∈ texts, t.1.isString = true := by
  rintro ⟨key, w⟩ member
  obtain ⟨k, v, -, shown, -⟩ := mem_entriesWithTextKeys? converted member
  exact isString_of_displayed? shown

/-- An item of a list with texts for keys comes from an item. -/
theorem mem_itemsWithTextKeys? {items converted : List Value}
    (convertedEq : itemsWithTextKeys? items = some converted) {w : Value}
    (member : w ∈ converted) : ∃ v ∈ items, v.withTextKeys? = some w :=
  Attempt.exists_of_mem_right (itemsWithTextKeys?_eq_some_iff.mp convertedEq) member

/-- Only a dictionary becomes one. -/
theorem eq_dict_of_withTextKeys? {v : Value} {entries : List (Value × Value)}
    (converted : v.withTextKeys? = some (.dict entries)) :
    ∃ sources texts, v = .dict sources ∧ entriesWithTextKeys? sources = some texts ∧
      entries = Entries.ofList texts := by
  cases v with
  | dict sources =>
      simp only [withTextKeys?, Option.map_eq_some_iff, Value.dict.injEq] at converted
      rcases converted with ⟨texts, textsEq, equal⟩
      exact ⟨sources, texts, rfl, textsEq, equal.symm⟩
  | list items => simp [withTextKeys?] at converted
  | _ => simp [withTextKeys?] at converted

/-- Only a list becomes one. -/
theorem eq_list_of_withTextKeys? {v : Value} {converted : List Value}
    (convertedEq : v.withTextKeys? = some (.list converted)) :
    ∃ items, v = .list items ∧ itemsWithTextKeys? items = some converted := by
  cases v with
  | list items => exact ⟨items, rfl, by simpa [withTextKeys?] using convertedEq⟩
  | dict entries => simp [withTextKeys?] at convertedEq
  | _ => simp [withTextKeys?] at convertedEq

/-- What a result holds under a text comes from what the value holds under a key with
that text. -/
theorem Holds.origin {v w : Value} (converted : v.withTextKeys? = some w) {key y : Value}
    (held : w.Holds key y) : ∃ x, v.Holds key x ∧ x.withTextKeys? = some y := by
  obtain ⟨entries, text, rfl, member, textShown⟩ := held
  obtain ⟨sources, texts, rfl, textsEq, rfl⟩ := eq_dict_of_withTextKeys? converted
  obtain ⟨k, x, listed, shown, xEq⟩ := mem_entriesWithTextKeys? textsEq (Entries.mem_ofList member)
  rw [displayed?_of_isString (isString_of_displayed? shown), Option.some.injEq] at textShown
  subst textShown
  exact ⟨x, holds_dict_iff.mpr ⟨k, listed, shown⟩, xEq⟩

/-- What stands in a result comes from what stands in the value. -/
theorem Contains.origin {v w : Value} (converted : v.withTextKeys? = some w) {y : Value}
    (inside : w.Contains y) : ∃ x, v.Contains x ∧ x.withTextKeys? = some y := by
  induction inside generalizing v with
  | here w => exact ⟨v, .here v, converted⟩
  | item member _ ih =>
      obtain ⟨items, rfl, convertedEq⟩ := eq_list_of_withTextKeys? converted
      obtain ⟨source, listed, becomes⟩ := mem_itemsWithTextKeys? convertedEq member
      obtain ⟨x, deeper, xEq⟩ := ih becomes
      exact ⟨x, .item listed deeper, xEq⟩
  | entry member _ ih =>
      obtain ⟨sources, texts, rfl, textsEq, rfl⟩ := eq_dict_of_withTextKeys? converted
      obtain ⟨k, source, listed, -, becomes⟩ :=
        mem_entriesWithTextKeys? textsEq (Entries.mem_ofList member)
      obtain ⟨x, deeper, xEq⟩ := ih becomes
      exact ⟨x, .entry listed deeper, xEq⟩

/-! ### Looking up -/

/-- What keys lead to, one dictionary after the other. -/
def descend? : Value → List String → Option Value
  | v, [] => some v
  | .dict entries, key :: keys => (lookup? entries key).bind (descend? · keys)
  | _, _ :: _ => none

@[simp]
theorem descend?_nil (v : Value) : v.descend? [] = some v := by
  cases v <;> rfl

/-- Keys lead to a dictionary only from a dictionary. -/
theorem exists_of_descend?_eq_dict {v : Value} {keys : List String}
    {inner : List (Value × Value)} (held : v.descend? keys = some (.dict inner)) :
    ∃ entries, v = .dict entries := by
  cases keys with
  | nil => exact ⟨inner, by simpa using held⟩
  | cons key keys =>
      cases v with
      | dict entries => exact ⟨entries, rfl⟩
      | _ => simp [descend?] at held

/-- A record holds under a text what is stored under it. -/
theorem lookup?_record (entries : Entries String Value) (key : String) :
    lookup? (entries.map fun e => (.str e.1, e.2)) key = entries.get? key := by
  simp only [lookup?, Entries.get?, List.find?_map, Option.map_map]
  rfl

/-- In a record a text leads to the value that is stored under it. -/
@[simp]
theorem descend?_record_cons (entries : Entries String Value) (key : String)
    (keys : List String) :
    (record entries).descend? (key :: keys) = (entries.get? key).bind (descend? · keys) := by
  rw [record, descend?, lookup?_record]

/-- The entries of a record keep their keys, each with its value converted. -/
theorem entriesWithTextKeys?_record {entries : Entries String Value} {texts : List (Value × Value)}
    (converted : entriesWithTextKeys? (entries.map fun e => (.str e.1, e.2)) = some texts) :
    ∃ shown : Entries String Value, texts = shown.map (fun e => (.str e.1, e.2)) ∧
      shown.keys = entries.keys ∧
      ∀ key x, entries.get? key = some x →
        ∃ y, x.withTextKeys? = some y ∧ shown.get? key = some y := by
  induction entries generalizing texts with
  | nil =>
      cases converted
      exact ⟨[], rfl, rfl, by simp⟩
  | cons entry rest ih =>
      rcases entry with ⟨name, v⟩
      simp only [List.map_cons, entriesWithTextKeys?, displayed?_str, Option.bind_eq_bind,
        Option.pure_def, Option.bind_eq_some_iff, Option.some.injEq] at converted
      rcases converted with ⟨text, rfl, value, valueEq, tail, tailEq, rfl⟩
      obtain ⟨shown, rfl, keysEq, found⟩ := ih tailEq
      refine ⟨(name, value) :: shown, rfl, by simp [keysEq], fun key x foundHere => ?_⟩
      rw [Entries.get?_cons] at foundHere ⊢
      by_cases equal : name = key
      · have valueHere : v = x := by simpa [equal] using foundHere
        exact ⟨value, valueHere ▸ valueEq, by simp [equal]⟩
      · have foundLater : Entries.get? rest key = some x := by simpa [equal] using foundHere
        obtain ⟨y, yEq, later⟩ := found key x foundLater
        exact ⟨y, yEq, by simpa [equal] using later⟩

/-- A record without repeated keys becomes one with the same keys, each with its value converted. -/
theorem exists_of_withTextKeys?_record {entries : Entries String Value}
    (distinct : entries.keys.Nodup) {w : Value}
    (converted : (record entries).withTextKeys? = some w) :
    ∃ shown, w = record shown ∧ shown.keys = entries.keys ∧
      ∀ key x, entries.get? key = some x →
        ∃ y, x.withTextKeys? = some y ∧ shown.get? key = some y := by
  rw [record, withTextKeys?, Option.map_eq_some_iff] at converted
  rcases converted with ⟨texts, textsEq, rfl⟩
  obtain ⟨shown, rfl, keysEq, converts⟩ := entriesWithTextKeys?_record textsEq
  have distinctTexts : (Entries.keys (shown.map fun e => (Value.str e.1, e.2))).Nodup := by
    rw [keys_record, keysEq]
    exact distinct.map fun _ _ => str.inj
  exact ⟨shown, by rw [Entries.ofList_eq_self distinctTexts, record], keysEq, converts⟩

/-- What stands under a key of a record without repeated keys stands there, converted,
in the result. -/
theorem descend?_withTextKeys? {entries : Entries String Value} (distinct : entries.keys.Nodup)
    {w : Value} (converted : (record entries).withTextKeys? = some w) (key : String) {x : Value}
    (found : entries.get? key = some x) :
    ∃ y, x.withTextKeys? = some y ∧ ∀ keys, w.descend? (key :: keys) = y.descend? keys := by
  obtain ⟨shown, rfl, -, converts⟩ := exists_of_withTextKeys?_record distinct converted
  obtain ⟨y, yEq, foundText⟩ := converts key x found
  exact ⟨y, yEq, fun keys => by rw [descend?_record_cons, foundText, Option.bind_some]⟩

/-- What does not stand in a record without repeated keys does not stand in the result. -/
theorem descend?_eq_none_of_withTextKeys? {entries : Entries String Value}
    (distinct : entries.keys.Nodup) {w : Value}
    (converted : (record entries).withTextKeys? = some w) {key : String}
    (absent : entries.get? key = none) (keys : List String) : w.descend? (key :: keys) = none := by
  obtain ⟨shown, rfl, keysEq, -⟩ := exists_of_withTextKeys?_record distinct converted
  rw [Entries.get?_eq_none_iff, ← keysEq, ← Entries.get?_eq_none_iff] at absent
  rw [descend?_record_cons, absent, Option.bind_none]

/-- Different whole numbers have different digits, or one of them a sign. -/
theorem toString_int_injective : Function.Injective (toString : Int → String) := by
  have digits {m n : Nat} (same : m.repr = n.repr) : m = n := by
    have read := congrArg (fun s : String => Nat.ofDigitChars 10 s.toList 0) same
    simpa only [Nat.toList_repr, Nat.ofDigitChars_ten_toDigits] using read
  have sign {m n : Nat} : "-" ++ m.repr ≠ n.repr := by
    intro same
    have member : '-' ∈ n.repr.toList := by simp [← same]
    rw [Nat.toList_repr] at member
    exact absurd (Nat.isDigit_of_mem_toDigits (by decide) (by decide) member) (by decide)
  intro m n same
  cases m with
  | ofNat m =>
      cases n with
      | ofNat n => exact congrArg Int.ofNat (digits same)
      | negSucc n => exact absurd same.symm sign
  | negSucc m =>
      cases n with
      | ofNat n => exact absurd same sign
      | negSucc n =>
          have successors := digits ((String.append_right_inj _).mp same)
          exact congrArg Int.negSucc (Nat.succ.inj successors)

/-- A number that is displayed is displayed by its digits. -/
theorem eq_of_displayed?_int {n : Int} {text : Value}
    (shown : (int n).displayed? = some text) : text = .str (toString n) := by
  simp only [displayed?, display?, quoted?, Number.intText?, Option.map_eq_some_iff,
    Option.ite_none_right_eq_some, Option.some.injEq] at shown
  obtain ⟨s, ⟨-, rfl⟩, rfl⟩ := shown
  rfl

/-- Entries under numbers become what entries under their digits become. -/
theorem entriesWithTextKeys?_of_codes {entries : Entries Int Value} {texts : List (Value × Value)}
    (converted : entriesWithTextKeys? (entries.map fun e => (.int e.1, e.2)) = some texts) :
    entriesWithTextKeys? (entries.map fun e => (.str (toString e.1), e.2)) = some texts := by
  rw [entriesWithTextKeys?_eq_some_iff, List.forall₂_map_left_iff] at converted ⊢
  refine converted.imp fun e t becomes => ⟨?_, becomes.2⟩
  rw [eq_of_displayed?_int becomes.1, displayed?_str]

/-- A dictionary under numbers becomes what the record under their digits becomes. -/
theorem withTextKeys?_of_codes {entries : Entries Int Value} {w : Value}
    (converted : (Value.dict (entries.map fun e => (.int e.1, e.2))).withTextKeys? = some w) :
    (record (entries.map fun e => (toString e.1, e.2))).withTextKeys? = some w := by
  rw [withTextKeys?, Option.map_eq_some_iff] at converted
  rcases converted with ⟨texts, textsEq, rfl⟩
  have digits := entriesWithTextKeys?_of_codes textsEq
  rw [record, withTextKeys?, List.map_map]
  exact congrArg (Option.map fun texts => dict (Entries.ofList texts)) digits

end ApiContract.Value
