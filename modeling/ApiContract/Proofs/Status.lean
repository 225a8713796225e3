import ApiContract.Proofs.Attempt
import ApiContract.Proofs.Entries
import ApiContract.Proofs.Value.Parts
import ApiContract.Status

/-!
# Response keys that can be read

A response key can be read if it is a whole number with a text, or a text whose
digits, should it consist of digits, make a decimal number.  Such a key names a
status, with a code that has a text again, or it is reported as unknown under
its text: there is no other way for it to fail.
-/

namespace ApiContract

namespace Text

theorem decimalNumber?_concat (digits : List Char) (c : Char) :
    decimalNumber? (digits ++ [c]) =
      (decimalNumber? digits).bind fun n => (decimalValue? c).map (10 * n + ·) := by
  simp [decimalNumber?, List.foldl_append]

/-- The value of a digit is less than ten. -/
theorem decimalValue?_lt {c : Char} {n : Nat} (value : decimalValue? c = some n) : n < 10 := by
  obtain ⟨first, found, rfl⟩ := Option.map_eq_some_iff.mp value
  have inRange := List.find?_some found
  simp only [Bool.and_eq_true, decide_eq_true_eq] at inRange
  omega

/-- Decimal digits make a number, which has no more digits. -/
theorem decimalNumber?_of_isDecimal {digits : List Char}
    (decimal : ∀ c ∈ digits, isDecimal c = true) :
    ∃ n, decimalNumber? digits = some n ∧ n < Nat.pow 10 digits.length := by
  induction digits using List.reverseRecOn with
  | nil => exact ⟨0, rfl, by simp⟩
  | append_singleton digits c ih =>
      obtain ⟨n, number, short⟩ := ih fun d member => decimal d (List.mem_append_left _ member)
      obtain ⟨m, value⟩ := Option.isSome_iff_exists.mp (decimal c (by simp))
      refine ⟨10 * n + m, by simp [decimalNumber?_concat, number, value], ?_⟩
      have digit := decimalValue?_lt value
      have longer : Nat.pow 10 (digits ++ [c]).length = Nat.pow 10 digits.length * 10 := by
        rw [List.length_append, List.length_singleton]
        rfl
      rw [longer]
      omega

/-- Digits that make a number are all decimal. -/
theorem isDecimal_of_decimalNumber? {digits : List Char} {n : Nat}
    (number : decimalNumber? digits = some n) : ∀ c ∈ digits, isDecimal c = true := by
  induction digits using List.reverseRecOn generalizing n with
  | nil => simp
  | append_singleton digits c ih =>
      rw [decimalNumber?_concat, Option.bind_eq_some_iff] at number
      rcases number with ⟨before, beforeEq, last⟩
      rcases Option.map_eq_some_iff.mp last with ⟨value, valueEq, -⟩
      rw [List.forall_mem_append, List.forall_mem_singleton]
      exact ⟨ih beforeEq, Option.isSome_iff_exists.mpr ⟨value, valueEq⟩⟩

end Text

namespace Status

/-- A text can be read as a key: if it is nothing but digits, they are decimal and not too many. -/
def ReadableText (text : String) : Prop :=
  text.toList ≠ [] → text.toList.all Text.isDigit = true →
    text.toList.length ≤ Number.digitLimit ∧ ∀ c ∈ text.toList, Text.isDecimal c = true

/-- A response key can be read: it is a whole number with a text, a boolean, or a text whose
digits, if it is nothing but digits, are decimal and not too many. -/
def Readable : Value → Prop
  | .int n => n.natAbs < Number.digitCeiling
  | .bool _ => True
  | v => v.isText = true ∧ ∀ text, v.shown = .ok text →
      text.toList ≠ [] → text.toList.all Text.isDigit = true →
        text.toList.length ≤ Number.digitLimit ∧ ∀ c ∈ text.toList, Text.isDecimal c = true

/-- A text in which something is not a digit can be read. -/
theorem readable_str {text : String} (other : text.toList.all Text.isDigit = false) :
    Readable (.str text) := by
  constructor
  · rfl
  · rintro _ ⟨⟩ - digits
    rw [digits] at other
    cases other

/-- Every symbol is for a code of three digits. -/
theorem codes_lt {text : String} {code : Int} (found : codes.get? text = some code) :
    0 ≤ code ∧ code < 1000 := by
  have short : ∀ e ∈ codes, 0 ≤ e.2 ∧ e.2 < 1000 := by decide
  exact short _ (Entries.mem_of_get? found)

/-- A number with no more digits than are allowed has a text. -/
theorem lt_digitCeiling {n length : Nat} (short : n < Nat.pow 10 length)
    (limit : length ≤ Number.digitLimit) : n < Number.digitCeiling := by
  have wider : ∀ limit, length ≤ limit → n < Nat.pow 10 limit := fun _ fits =>
    Nat.lt_of_lt_of_le short (Nat.pow_le_pow_right (by decide) fits)
  unfold Number.digitCeiling
  exact wider _ limit

/-- A text that can be read is for a code with a text, or is unknown. -/
theorem ofText_cases {text : String} (readable : ReadableText text) :
    (∃ code, ofText text = .ok code ∧ code.natAbs < Number.digitCeiling) ∨
      ofText text = .error (unknown text) := by
  rw [ofText]
  by_cases digits : (!text.toList.isEmpty && text.toList.all Text.isDigit) = true
  · rw [if_pos digits]
    simp only [Bool.and_eq_true, Bool.not_eq_true', List.isEmpty_eq_false_iff] at digits
    obtain ⟨limit, decimal⟩ := readable digits.1 digits.2
    obtain ⟨n, number, short⟩ := Text.decimalNumber?_of_isDecimal decimal
    have fits : ¬text.toList.length > Number.digitLimit := Nat.not_lt.mpr limit
    refine Or.inl ⟨n, by rw [ofDigits, if_neg fits, number], ?_⟩
    exact lt_digitCeiling short limit
  · rw [if_neg digits]
    cases found : codes.get? text with
    | none => exact Or.inr rfl
    | some code =>
        have small := codes_lt found
        have short : code.natAbs < Nat.pow 10 3 := by
          change code.natAbs < 1000
          omega
        exact Or.inl ⟨code, rfl, lt_digitCeiling short (by decide)⟩

/-- A text is a key by what it says. -/
theorem exists_shown_of_isText {key : Value} (text : key.isText = true) :
    ∃ t, key.shown = .ok t ∧ resolve key = ofText t ∧ (Readable key ↔ ReadableText t) := by
  have said : ∃ t, key.shown = .ok t ∧ resolve key = key.shown.bind ofText ∧
      (Readable key ↔ key.isText = true ∧ ∀ u, key.shown = .ok u → ReadableText u) := by
    cases key with
    | str | unpaired | tag => exact ⟨_, rfl, rfl, Iff.rfl⟩
    | _ => simp [Value.isText] at text
  rcases said with ⟨t, shown, resolved, readable⟩
  refine ⟨t, shown, by rw [resolved, shown, Attempt.ok_bind], readable.trans ?_⟩
  constructor
  · intro each
    exact each.2 t shown
  · intro here
    refine ⟨text, fun u also => ?_⟩
    cases shown.symm.trans also
    exact here

/-- A text that can be read as a key is for a code with a text or is unknown under its own. -/
theorem resolve_cases_of_isText {key : Value} (text : key.isText = true)
    (readable : Readable key) :
    ∃ t, key.shown = .ok t ∧
      ((∃ code, resolve key = .ok code ∧ code.natAbs < Number.digitCeiling) ∨
        resolve key = .error (unknown t)) := by
  rcases exists_shown_of_isText text with ⟨t, shown, resolved, readableIff⟩
  rw [resolved]
  exact ⟨t, shown, ofText_cases (readableIff.mp readable)⟩

/-- A key that can be read has a text, and is for a code with a text or is unknown under its
own. -/
theorem resolve_cases {key : Value} (readable : Readable key) :
    ∃ text, key.shown = .ok text ∧
      ((∃ code, resolve key = .ok code ∧ code.natAbs < Number.digitCeiling) ∨
        resolve key = .error (unknown text)) := by
  cases key with
  | int n =>
      have short : n.natAbs < Number.digitCeiling := readable
      refine ⟨toString n, ?_, Or.inl ⟨n, rfl, short⟩⟩
      simp [Value.shown, Value.display?, Value.quoted?, Number.intText?, short]
  | bool b => exact ⟨_, rfl, Or.inr rfl⟩
  | str | unpaired | tag => exact resolve_cases_of_isText rfl readable
  | _ => simp [Readable, Value.isText] at readable

/-! ### Keys that cannot be read -/

/-- How a value fails that should be a number and is none: by too many digits, or by one that is not
decimal. -/
def Unreadable (f : Failure) : Prop :=
  f = .badValue .tooManyDigits ∨ f = .badValue .notDecimal

/-- A text that cannot be read as a key fails as one. -/
theorem ofText_of_not_readable {text : String} (unreadable : ¬ReadableText text) :
    ∃ f, ofText text = .error f ∧ Unreadable f := by
  rw [ReadableText] at unreadable
  push Not at unreadable
  rcases unreadable with ⟨some, digits, fails⟩
  have isNumber : (!text.toList.isEmpty && text.toList.all Text.isDigit) = true := by
    simp [some, digits]
  rw [ofText, if_pos isNumber, ofDigits]
  by_cases fits : text.toList.length ≤ Number.digitLimit
  · rw [if_neg (Nat.not_lt.mpr fits)]
    cases number : Text.decimalNumber? text.toList with
    | none => exact ⟨_, rfl, Or.inr rfl⟩
    | some n =>
        rcases fails fits with ⟨c, member, other⟩
        exact absurd (Text.isDecimal_of_decimalNumber? number c member) other
  · rw [if_pos (Nat.lt_of_not_le fits)]
    exact ⟨_, rfl, Or.inl rfl⟩

/-- A whole number or a text that cannot be read as a key has no text, or fails as one. -/
theorem resolve_of_not_readable {key : Value} (plain : (∃ n, key = .int n) ∨ key.isText = true)
    (unreadable : ¬Readable key) :
    (∃ f, key.shown = .error f ∧ Unreadable f) ∨
      ∃ text f, key.shown = .ok text ∧ resolve key = .error f ∧ Unreadable f := by
  rcases plain with ⟨n, rfl⟩ | text
  · left
    have long : ¬n.natAbs < Number.digitCeiling := unreadable
    refine ⟨.badValue .tooManyDigits, ?_, Or.inl rfl⟩
    simp [Value.shown, Value.display?, Value.quoted?, Number.intText?, long]
  · right
    rcases exists_shown_of_isText text with ⟨t, shown, resolved, readable⟩
    rw [readable] at unreadable
    rcases ofText_of_not_readable unreadable with ⟨f, failed, kind⟩
    exact ⟨t, f, shown, resolved.trans failed, kind⟩

/-- A key that names no status is unknown under its text. -/
theorem eq_unknown_of_resolve {key : Value} {status text : String} {names : List String}
    (failed : resolve key = .error (.unknownStatus status names)) (shown : key.shown = .ok text) :
    Failure.unknownStatus status names = unknown text := by
  have texts : key.shown.bind ofText = .error (.unknownStatus status names) →
      Failure.unknownStatus status names = unknown text := by
    intro failed
    rw [shown, Attempt.ok_bind, ofText] at failed
    split at failed
    · rw [ofDigits] at failed
      split at failed
      · cases failed
      · split at failed <;> cases failed
    · split at failed
      · cases failed
      · exact (Except.error.inj failed).symm
  cases key with
  | int n => cases failed
  | bool b =>
      rw [resolve, shown, Attempt.ok_bind] at failed
      exact (Except.error.inj failed).symm
  | _ => exact texts failed

end Status

end ApiContract
