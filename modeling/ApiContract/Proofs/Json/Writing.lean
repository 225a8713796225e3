import ApiContract.Json.Writer
import ApiContract.Proofs.Json.Grammar
import ApiContract.Proofs.Value.Leaves
import Mathlib.Data.Nat.Digits.Defs

/-!
# What is written is JSON

A value that is made of null, booleans, texts and whole numbers that have a text,
in lists and in dictionaries under different texts, is written as JSON for it, in
every style and at every depth.
-/

namespace ApiContract.Json

/-! ### Texts -/

theorem hexDigit_digitChar {n : Nat} (bound : n < 16) : HexDigit (Nat.digitChar n) n :=
  ⟨bound, Or.inl rfl⟩

/-- The escape of a unit spells it. -/
theorem SpellsUnits.escaped {n : Nat} (bound : n < 0x10000) {units : List Nat}
    {cs rest : List Char} (others : SpellsUnits units cs rest) :
    SpellsUnits (n :: units) (Json.escape n ++ cs) rest := by
  have parts : 4096 * (n / 4096 % 16) + 256 * (n / 256 % 16) + 16 * (n / 16 % 16) + n % 16 = n := by
    omega
  have spelled := SpellsUnits.unicode (hexDigit_digitChar (Nat.mod_lt (n / 4096) (by decide)))
    (hexDigit_digitChar (Nat.mod_lt (n / 256) (by decide)))
    (hexDigit_digitChar (Nat.mod_lt (n / 16) (by decide)))
    (hexDigit_digitChar (Nat.mod_lt n (by decide))) others
  rw [parts] at spelled
  exact spelled

/-- The number of a character is none of half of a pair. -/
theorem isHalf_toNat (c : Char) : Text.isHalf c.toNat = false := by
  have valid : c.toNat < 0xD800 ∨ 0xDFFF < c.toNat ∧ c.toNat < 0x110000 := c.valid
  simp only [Text.isHalf, Text.isHigh, Text.isLow, Bool.or_eq_false_iff, Bool.and_eq_false_iff,
    decide_eq_false_iff_not]
  omega

theorem toNat_lt (c : Char) : c.toNat < 0x110000 := by
  have valid : c.toNat < 0xD800 ∨ 0xDFFF < c.toNat ∧ c.toNat < 0x110000 := c.valid
  omega

/-- The units of a character are units of sixteen bits. -/
theorem unitsOf_lt {n : Nat} (bound : n < 0x110000) : ∀ unit ∈ Text.unitsOf n, unit < 0x10000 := by
  intro unit member
  rw [Text.unitsOf] at member
  split at member
  · rw [List.mem_singleton.mp member]
    assumption
  · rcases List.mem_cons.mp member with rfl | later
    · omega
    · rw [List.mem_singleton.mp later]
      omega

/-- The escapes of units spell them. -/
theorem SpellsUnits.escapedAll {more : List Nat} (bounds : ∀ unit ∈ more, unit < 0x10000)
    {units : List Nat} {cs rest : List Char} (others : SpellsUnits units cs rest) :
    SpellsUnits (more ++ units) (more.flatMap Json.escape ++ cs) rest := by
  induction more with
  | nil => exact others
  | cons n more ih =>
      obtain ⟨bound, later⟩ := List.forall_mem_cons.mp bounds
      rw [List.flatMap_cons, List.append_assoc]
      exact (ih later).escaped bound

/-- What is written of a character spells units that are joined to it. -/
theorem spells_charText (ascii : Bool) (c : Char) {units : List Nat} {cs rest : List Char}
    (others : SpellsUnits units cs rest) :
    ∃ more, SpellsUnits (more ++ units) (charText ascii c ++ cs) rest ∧
      Text.joinUnits (more ++ units) = c.toNat :: Text.joinUnits units := by
  have high : Text.isHigh c.toNat = false := (Bool.or_eq_false_iff.mp (isHalf_toNat c)).1
  have single : Text.joinUnits ([c.toNat] ++ units) = c.toNat :: Text.joinUnits units :=
    Text.joinUnits_cons_of_not_isHigh high units
  rw [charText]
  split
  · rename_i equal
    obtain rfl := beq_iff_eq.mp equal
    exact ⟨_, .escape .quote others, single⟩
  split
  · rename_i equal
    obtain rfl := beq_iff_eq.mp equal
    exact ⟨_, .escape .backslash others, single⟩
  split
  · rename_i equal
    obtain rfl := beq_iff_eq.mp equal
    exact ⟨_, .escape .lineFeed others, single⟩
  split
  · rename_i equal
    obtain rfl := beq_iff_eq.mp equal
    exact ⟨_, .escape .carriageReturn others, single⟩
  split
  · rename_i equal
    obtain rfl := beq_iff_eq.mp equal
    exact ⟨_, .escape .tab others, single⟩
  split
  · rename_i equal
    obtain rfl : c = '\x08' := Char.toNat_inj.mp (beq_iff_eq.mp equal)
    exact ⟨_, .escape .backspace others, single⟩
  split
  · rename_i equal
    obtain rfl : c = '\x0c' := Char.toNat_inj.mp (beq_iff_eq.mp equal)
    exact ⟨_, .escape .formFeed others, single⟩
  split
  · exact ⟨_, others.escapedAll (unitsOf_lt (toNat_lt c)),
      Text.joinUnits_unitsOf_append (isHalf_toNat c) (toNat_lt c) units⟩
  · rename_i noQuote noBackslash _ _ _ _ _ plain
    simp only [Bool.or_eq_true, decide_eq_true_eq, not_or] at plain
    refine ⟨_, .plain (by omega) ?_ ?_ others, single⟩
    · simpa using noQuote
    · simpa using noBackslash

/-- What is written of characters spells units that are joined to them. -/
theorem spells_charTexts (ascii : Bool) (chars rest : List Char) :
    ∃ units, SpellsUnits units (chars.flatMap (charText ascii) ++ '\x22' :: rest) rest ∧
      Text.joinUnits units = chars.map Char.toNat := by
  induction chars with
  | nil => exact ⟨[], .close rest, rfl⟩
  | cons c chars ih =>
      obtain ⟨units, spelled, joined⟩ := ih
      obtain ⟨more, first, joinedFirst⟩ := spells_charText ascii c spelled
      rw [List.flatMap_cons, List.append_assoc, List.map_cons, ← joined]
      exact ⟨more ++ units, first, joinedFirst⟩

/-- The numbers of the characters of a text stand for it. -/
theorem ofCodes_toNat (s : String) : Value.ofCodes (s.toList.map Char.toNat) = .str s := by
  have whole : (s.toList.map Char.toNat).any Text.isHalf = false := by
    simp [isHalf_toNat]
  rw [Value.ofCodes, whole]
  simp [Function.comp_def, Char.ofNat_toNat]

/-- What is written of a text spells it. -/
theorem spells_writeText (ascii : Bool) (s : String) (rest : List Char) :
    SpellsText (.str s) (writeText (charStyle ascii) s ++ rest) rest := by
  obtain ⟨units, spelled, joined⟩ := spells_charTexts ascii s.toList rest
  rw [← ofCodes_toNat, ← joined, writeText, plain_charStyle]
  simp only [List.cons_append, List.append_assoc, List.nil_append]
  exact .quoted spelled

/-! ### Numbers -/

/-- The digits of a number that is not zero do not start with a zero. -/
theorem head?_toDigits_ne {n : Nat} (positive : 0 < n) :
    (Nat.toDigits 10 n).head? ≠ some '0' := by
  induction n using Nat.strongRecOn with
  | ind n ih =>
      by_cases small : n < 10
      · rw [Nat.toDigits_of_lt_base small]
        have digits : ∀ n < 10, 0 < n → Nat.digitChar n ≠ '0' := by decide
        simpa using digits n small positive
      · rw [Nat.toDigits_of_base_le (by decide) (by omega),
          List.head?_append_of_ne_nil _ Nat.toDigits_ne_nil]
        exact ih (n / 10) (by omega) (by omega)

/-- The digits of a number may stand before a point. -/
theorem whole_toDigits (n : Nat) : Whole (Nat.toDigits 10 n) := by
  rcases Nat.eq_zero_or_pos n with rfl | positive
  · exact .zero
  · have first := head?_toDigits_ne positive
    have digits : ∀ c ∈ Nat.toDigits 10 n, c.isDigit = true := fun c member =>
      Nat.isDigit_of_mem_toDigits (by decide) (by decide) member
    cases split : Nat.toDigits 10 n with
    | nil => exact absurd split Nat.toDigits_ne_nil
    | cons c cs =>
        rw [split] at first digits
        obtain ⟨digit, others⟩ := List.forall_mem_cons.mp digits
        exact .digits digit (by simpa using first) others

theorem length_toDigits_le {n limit : Nat} (positive : 0 < limit) (bounded : n < Nat.pow 10 limit) :
    (Nat.toDigits 10 n).length ≤ limit :=
  (Nat.length_toDigits_le_iff (by decide) positive).mpr bounded

theorem ofDigits_toDigits (n : Nat) : Number.ofDigits (Nat.toDigits 10 n) = n :=
  Nat.ofDigitChars_ten_toDigits

theorem toList_toString_int (n : Int) :
    (toString n).toList = (if decide (n < 0) then ['-'] else []) ++ Nat.toDigits 10 n.natAbs := by
  cases n with
  | ofNat m => exact Nat.toList_repr
  | negSucc m =>
      have sign : toString (Int.negSucc m) = "-" ++ (m + 1).repr := rfl
      rw [sign, String.toList_append, Nat.toList_repr]
      simp

/-- What is written of a whole number that has a text spells it. -/
theorem spells_int {n : Int} (short : (Number.intText? n).isSome = true) (rest : List Char) :
    Spells (.value (.int n)) ((toString n).toList ++ rest) rest := by
  have spelled : SpellsNumeral ⟨decide (n < 0), Nat.toDigits 10 n.natAbs, [], none⟩
      (toString n).toList := by
    have parts : SpellsNumeral ⟨decide (n < 0), Nat.toDigits 10 n.natAbs, [], none⟩ _ :=
      .parts (whole_toDigits n.natAbs) .absent .absent
    rwa [List.append_nil, List.append_nil, ← toList_toString_int] at parts
  refine .number spelled ?_ rest
  have bounded := Number.isSome_intText?_iff.mp short
  unfold Number.digitCeiling at bounded
  have length : (Nat.toDigits 10 n.natAbs).length ≤ Number.digitLimit :=
    length_toDigits_le (by decide) bounded
  have same : (if decide (n < 0) = true then -(n.natAbs : Int) else n.natAbs) = n := by
    by_cases negative : n < 0
    · rw [if_pos (decide_eq_true negative)]
      omega
    · rw [if_neg (by simpa using negative)]
      omega
  simp only [Numeral.value, List.isEmpty_nil, Option.isNone_none, Bool.and_self, if_true,
    if_neg (Nat.not_lt.mpr length), ofDigits_toDigits, same]

/-! ### Values -/

theorem gap_newline (depth : Nat) (rest : List Char) : Gap (newline depth ++ rest) rest := by
  refine ⟨newline depth, ?_, rfl⟩
  rw [newline, List.forall_mem_cons]
  exact ⟨rfl, fun c member => by rw [List.eq_of_mem_replicate member]; rfl⟩

theorem gap_blank (rest : List Char) : Gap (' ' :: rest) rest :=
  Gap.cons rfl (Gap.refl rest)

variable {ascii : Bool}

/-- What is written of items spells them if that is so of each. -/
theorem spells_items {v : Value} {vs : List Value}
    (each : ∀ w ∈ v :: vs, ∀ depth after,
      Spells (.value w) (write (charStyle ascii) depth after w) after)
    (depth : Nat) {cs close rest : List Char}
    (start : Gap cs (write (charStyle ascii) depth (writeItems (charStyle ascii) depth close vs) v))
    (closed : Gap close (']' :: rest)) : Spells (.items (v :: vs)) cs rest := by
  induction vs generalizing v cs with
  | nil => exact .lastItem start (each v List.mem_cons_self depth _) closed
  | cons w ws ih =>
      obtain ⟨first, others⟩ := List.forall_mem_cons.mp each
      rw [writeItems, plain_charStyle] at start
      exact .item start (first depth _) (Gap.refl _) (ih others (gap_newline depth _))

/-- What is written of entries spells them if that is so of each. -/
theorem spells_entries {e : Value × Value} {es : List (Value × Value)}
    (texts : ∀ f ∈ e :: es, ∃ s, f.1 = .str s)
    (each : ∀ f ∈ e :: es, ∀ depth after,
      Spells (.value f.2) (write (charStyle ascii) depth after f.2) after)
    (depth : Nat) {cs close rest : List Char}
    (start : Gap cs (writeKey (charStyle ascii) e.1 ++ ':' :: ' ' ::
      write (charStyle ascii) depth (writeEntries (charStyle ascii) depth close es) e.2))
    (closed : Gap close ('\x7d' :: rest)) : Spells (.entries (e :: es)) cs rest := by
  induction es generalizing e cs with
  | nil =>
      obtain ⟨s, key⟩ := texts e List.mem_cons_self
      rcases e with ⟨k, v⟩
      obtain rfl : k = .str s := key
      exact .lastEntry start (spells_writeText ascii s _) (Gap.refl _) (gap_blank _)
        (each _ List.mem_cons_self depth _) closed
  | cons f fs ih =>
      obtain ⟨⟨s, key⟩, otherTexts⟩ := List.forall_mem_cons.mp texts
      obtain ⟨first, others⟩ := List.forall_mem_cons.mp each
      rcases e with ⟨k, v⟩
      obtain rfl : k = .str s := key
      rcases f with ⟨l, w⟩
      simp only [writeEntries, plain_charStyle, char_charStyle, List.cons_append,
        List.append_assoc] at start
      exact .entry start (spells_writeText ascii s _) (Gap.refl _) (gap_blank _) (first depth _)
        (Gap.refl _) (ih otherTexts others (gap_newline depth _))

/-- What is written of a value of literals under different texts of characters spells the value. -/
theorem spells_write {v : Value} (literal : v.Leaves Value.isLiteral) (recorded : v.Recorded)
    (whole : v.Throughout Value.isWhole) (depth : Nat) (after : List Char) :
    Spells (.value v) (write (charStyle ascii) depth after v) after := by
  induction v using Value.induction generalizing depth after with
  | list items ih =>
      cases items with
      | nil => exact .emptyList (Gap.refl _)
      | cons v vs =>
          rw [Value.leaves_list_iff] at literal
          rw [Value.throughout_list_iff] at whole
          have each : ∀ w ∈ v :: vs, ∀ depth after,
              Spells (.value w) (write (charStyle ascii) depth after w) after := fun w member =>
            ih w member (literal w member) (recorded.item member) (whole w member)
          rw [write, plain_charStyle, plain_charStyle, char_charStyle]
          exact .list (spells_items each (depth + 1) (gap_newline _ _) (gap_newline depth _))
  | dict entries ih =>
      cases entries with
      | nil => exact .emptyDict (Gap.refl _)
      | cons e es =>
          rw [Value.leaves_dict_iff] at literal
          rw [Value.throughout_dict_iff] at whole
          have each : ∀ f ∈ e :: es, ∀ depth after,
              Spells (.value f.2) (write (charStyle ascii) depth after f.2) after := fun f member =>
            ih f.1 f.2 member (literal f member) (recorded.entry member) (whole f member).2
          obtain ⟨strings, distinct⟩ := recorded _ (.here _)
          have texts : ∀ f ∈ e :: es, ∃ s, f.1 = .str s := fun f member =>
            Value.exists_str_of_isString (strings f member) (whole f member).1
          rcases e with ⟨k, v⟩
          rw [write]
          simp only [plain_charStyle, char_charStyle, List.append_assoc, List.cons_append]
          exact .dict (spells_entries texts each (depth + 1) (gap_newline _ _)
            (gap_newline depth _)) distinct
  | leaf v noList noDict =>
      rw [Value.leaves_iff_of_leaf noList noDict] at literal
      cases v with
      | null => exact .null after
      | bool b =>
          cases b with
          | true => exact .truth after
          | false => exact .falsity after
      | int n =>
          rw [Value.isLiteral] at literal
          rw [write, plain_charStyle]
          exact spells_int literal after
      | str s => exact .text (spells_writeText ascii s after)
      | list items => exact absurd rfl (noList items)
      | dict entries => exact absurd rfl (noDict entries)
      | _ => simp [Value.isLiteral] at literal

/-! ### Texts as a whole -/

theorem itemFault?_eq_none_iff {items : List Value} :
    itemFault? items = none ↔ ∀ v ∈ items, fault? v = none := by
  induction items with
  | nil => simp [itemFault?]
  | cons v vs ih => simp [itemFault?, ih]

theorem entryFault?_eq_none_iff {entries : List (Value × Value)} :
    entryFault? entries = none ↔ ∀ e ∈ entries, keyFault? e.1 = none ∧ fault? e.2 = none := by
  induction entries with
  | nil => simp [entryFault?]
  | cons e es ih => simp [entryFault?, ih, and_assoc]

theorem keyFault?_of_isString {key : Value} (string : key.isString = true) :
    keyFault? key = none := by
  cases key with
  | str | unpaired => rfl
  | _ => cases string

/-- Null, booleans, texts and numbers that have a text can be written in lists and under texts. -/
theorem fault?_eq_none {v : Value} (primitive : v.Leaves Value.isPrimitive)
    (recorded : v.Recorded) : fault? v = none := by
  induction v using Value.induction with
  | list items ih =>
      rw [Value.leaves_list_iff] at primitive
      rw [fault?, itemFault?_eq_none_iff]
      exact fun v member => ih v member (primitive v member) (recorded.item member)
  | dict entries ih =>
      rw [Value.leaves_dict_iff] at primitive
      rw [fault?, entryFault?_eq_none_iff]
      intro e member
      refine ⟨?_, ih e.1 e.2 member (primitive e member) (recorded.entry member)⟩
      exact keyFault?_of_isString ((recorded _ (.here _)).1 e member)
  | leaf v noList noDict =>
      rw [Value.leaves_iff_of_leaf noList noDict] at primitive
      cases v with
      | int n =>
          simp only [Value.isPrimitive, Value.isLiteral] at primitive
          rw [fault?, intFault?, if_pos primitive]
      | list items => exact absurd rfl (noList items)
      | dict entries => exact absurd rfl (noDict entries)
      | builtin | tag | component => cases primitive
      | _ => rfl

section

variable {α : Type} {style : Style α}

theorem written_eq_ok {v : Value} (primitive : v.Leaves Value.isPrimitive)
    (recorded : v.Recorded) : written style v = .ok (write style 0 [] v) := by
  rw [written, fault?_eq_none primitive recorded]

/-- What comes after items stands behind what is written of them if that is so of each. -/
theorem writeItems_append {items : List Value} {more : List α}
    (each : ∀ v ∈ items, ∀ depth after,
      write style depth (after ++ more) v = write style depth after v ++ more)
    (depth : Nat) (after : List α) :
    writeItems style depth (after ++ more) items = writeItems style depth after items ++ more := by
  induction items with
  | nil => rfl
  | cons v vs ih =>
      obtain ⟨first, others⟩ := List.forall_mem_cons.mp each
      rw [writeItems, writeItems, ih others, first, List.append_assoc]

/-- What comes after entries stands behind what is written of them if that is so of each. -/
theorem writeEntries_append {entries : List (Value × Value)} {more : List α}
    (each : ∀ e ∈ entries, ∀ depth after,
      write style depth (after ++ more) e.2 = write style depth after e.2 ++ more)
    (depth : Nat) (after : List α) :
    writeEntries style depth (after ++ more) entries =
      writeEntries style depth after entries ++ more := by
  induction entries with
  | nil => rfl
  | cons e es ih =>
      obtain ⟨first, others⟩ := List.forall_mem_cons.mp each
      rcases e with ⟨k, v⟩
      rw [writeEntries, writeEntries, ih others, first]
      simp only [List.append_assoc, List.cons_append]

/-- What comes after a value stands behind what is written of it. -/
theorem write_append (v : Value) (depth : Nat) (after more : List α) :
    write style depth (after ++ more) v = write style depth after v ++ more := by
  induction v using Value.induction generalizing depth after with
  | list items ih =>
      cases items with
      | nil => rfl
      | cons v vs =>
          obtain ⟨first, others⟩ := List.forall_mem_cons.mp ih
          rw [write, write, ← List.cons_append, ← List.append_assoc (style.plain (newline depth)),
            writeItems_append others, first, List.append_assoc]
  | dict entries ih =>
      cases entries with
      | nil => rfl
      | cons e es =>
          have each : ∀ f ∈ e :: es, ∀ depth after,
              write style depth (after ++ more) f.2 = write style depth after f.2 ++ more :=
            fun f => ih f.1 f.2
          obtain ⟨first, others⟩ := List.forall_mem_cons.mp each
          rcases e with ⟨k, v⟩
          rw [write, write, ← List.cons_append, ← List.append_assoc (style.plain (newline depth)),
            writeEntries_append others, first]
          simp only [List.append_assoc, List.cons_append]
  | leaf v noList noDict =>
      cases v with
      | list items => exact absurd rfl (noList items)
      | dict entries => exact absurd rfl (noDict entries)
      | _ => simp only [write, List.append_assoc]

/-! ### Characters and code points -/

theorem plain_append (first second : List Char) :
    style.plain (first ++ second) = style.plain first ++ style.plain second :=
  List.map_append

theorem plain_cons (c : Char) (cs : List Char) :
    style.plain (c :: cs) = style.char c :: style.plain cs :=
  rfl

/-- A key of characters is written in characters. -/
theorem writeKey_of_isWhole {key : Value} (whole : key.isWhole = true) :
    writeKey style key = style.plain (writeKey (charStyle style.asciiOnly) key) := by
  cases key with
  | unpaired => cases whole
  | _ =>
      rw [writeKey, writeKey, writeText, writeText, plain_charStyle]
      · rfl
      all_goals exact fun _ => Value.noConfusion

/-- What is written of items is characters if that is so of each. -/
theorem writeItems_plain {items : List Value}
    (each : ∀ v ∈ items, ∀ depth after, write style depth (style.plain after) v =
      style.plain (write (charStyle style.asciiOnly) depth after v))
    (depth : Nat) (after : List Char) :
    writeItems style depth (style.plain after) items =
      style.plain (writeItems (charStyle style.asciiOnly) depth after items) := by
  induction items with
  | nil => rfl
  | cons v vs ih =>
      obtain ⟨first, others⟩ := List.forall_mem_cons.mp each
      rw [writeItems, writeItems, ih others, first, plain_charStyle, plain_append]

/-- What is written of entries is characters if that is so of each. -/
theorem writeEntries_plain {entries : List (Value × Value)}
    (keys : ∀ e ∈ entries, e.1.isWhole = true)
    (each : ∀ e ∈ entries, ∀ depth after, write style depth (style.plain after) e.2 =
      style.plain (write (charStyle style.asciiOnly) depth after e.2))
    (depth : Nat) (after : List Char) :
    writeEntries style depth (style.plain after) entries =
      style.plain (writeEntries (charStyle style.asciiOnly) depth after entries) := by
  induction entries with
  | nil => rfl
  | cons e es ih =>
      obtain ⟨key, otherKeys⟩ := List.forall_mem_cons.mp keys
      obtain ⟨first, others⟩ := List.forall_mem_cons.mp each
      rcases e with ⟨k, v⟩
      rw [writeEntries, writeEntries, ih otherKeys others, first, plain_charStyle,
        writeKey_of_isWhole key, char_charStyle, char_charStyle, plain_append, plain_append]
      rfl

/-- A value whose texts are all of characters is written in characters. -/
theorem write_plain {v : Value} (whole : v.Throughout Value.isWhole) (depth : Nat)
    (after : List Char) :
    write style depth (style.plain after) v =
      style.plain (write (charStyle style.asciiOnly) depth after v) := by
  induction v using Value.induction generalizing depth after with
  | list items ih =>
      cases items with
      | nil => rfl
      | cons v vs =>
          rw [Value.throughout_list_iff] at whole
          have each : ∀ w ∈ v :: vs, ∀ depth after, write style depth (style.plain after) w =
              style.plain (write (charStyle style.asciiOnly) depth after w) :=
            fun w member => ih w member (whole w member)
          obtain ⟨first, others⟩ := List.forall_mem_cons.mp each
          have close : style.plain (newline depth) ++ style.char ']' :: style.plain after =
              style.plain (newline depth ++ ']' :: after) := by
            rw [plain_append, plain_cons]
          rw [write, write, close, writeItems_plain others, first, plain_append]
          simp only [plain_charStyle, char_charStyle]
  | dict entries ih =>
      cases entries with
      | nil => rfl
      | cons e es =>
          rw [Value.throughout_dict_iff] at whole
          have each : ∀ f ∈ e :: es, ∀ depth after, write style depth (style.plain after) f.2 =
              style.plain (write (charStyle style.asciiOnly) depth after f.2) :=
            fun f member => ih f.1 f.2 member (whole f member).2
          obtain ⟨key, otherKeys⟩ := List.forall_mem_cons.mp fun f member => (whole f member).1
          obtain ⟨first, others⟩ := List.forall_mem_cons.mp each
          have close : style.plain (newline depth) ++ style.char '\x7d' :: style.plain after =
              style.plain (newline depth ++ '\x7d' :: after) := by
            rw [plain_append, plain_cons]
          rcases e with ⟨k, v⟩
          rw [write, write, close, writeEntries_plain otherKeys others, first,
            writeKey_of_isWhole key, plain_append, plain_append]
          simp only [plain_charStyle, char_charStyle]
          rfl
  | leaf v noList noDict =>
      rw [Value.throughout_iff_of_leaf noList noDict] at whole
      cases v with
      | list items => exact absurd rfl (noList items)
      | dict entries => exact absurd rfl (noDict entries)
      | unpaired codes => cases whole
      | _ =>
          simp only [write, writeText, plain_charStyle]
          exact (plain_append _ _).symm

end

/-- A value of literals under different texts of characters is written as JSON for it, whatever
blanks come after. -/
theorem denotes_write {v : Value} (literal : v.Leaves Value.isLiteral) (recorded : v.Recorded)
    (whole : v.Throughout Value.isWhole) {blanks : List Char}
    (all : ∀ c ∈ blanks, isBlank c = true) :
    Denotes (String.ofList (write (charStyle ascii) 0 [] v ++ blanks)) v := by
  refine ⟨_, blanks, Gap.refl _, ?_, blanks, all, (List.append_nil blanks).symm⟩
  rw [String.toList_ofList, ← write_append, List.nil_append]
  exact spells_write literal recorded whole 0 blanks

/-- Without texts that are none of characters, a document is written in characters. -/
theorem ofCodes_write {v : Value} (whole : v.Throughout Value.isWhole) (more : List Char) :
    Value.ofCodes (write documentStyle 0 [] v ++ more.map Char.toNat) =
      .str (String.ofList (write (charStyle false) 0 [] v ++ more)) := by
  have codes : write documentStyle 0 [] v = documentStyle.plain (write (charStyle false) 0 [] v) :=
    write_plain whole 0 []
  rw [← ofCodes_toNat, String.toList_ofList, List.map_append, codes]
  rfl

end ApiContract.Json
