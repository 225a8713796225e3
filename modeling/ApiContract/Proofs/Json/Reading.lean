import ApiContract.Proofs.Attempt
import ApiContract.Proofs.Json.Grammar
import ApiContract.Proofs.Text.CharClass
import ApiContract.Proofs.Value.HandedOut

/-!
# Reading what is JSON

Every text that is JSON for a value is read as this value, whatever blanks and
escapes it is written with, if there is room for the lists and dictionaries that
stand in each other.  So no text is JSON for two values.

Only the end of a number can be in doubt: digits, a point or an exponent that
follow it belong to it.  In a text that is JSON none of them does.
-/

namespace ApiContract.Json

/-! ### Blanks -/

theorem isBlank_iff {c : Char} :
    isBlank c = true ↔ c = ' ' ∨ c = '\t' ∨ c = '\n' ∨ c = '\r' := by
  simp [isBlank, or_assoc]

theorem Gap.length_le {cs rest : List Char} (gap : Gap cs rest) : rest.length ≤ cs.length := by
  obtain ⟨blanks, -, rfl⟩ := gap
  simp

/-- Blanks are skipped up to the first character that is none. -/
theorem Gap.skip_eq {cs rest : List Char} (gap : Gap cs rest)
    (stop : ∀ c ∈ rest.head?, isBlank c = false) : skip cs = rest := by
  obtain ⟨blanks, all, rfl⟩ := gap
  rw [skip, List.dropWhile_append_of_pos all]
  cases rest with
  | nil => rfl
  | cons c rest => simp [stop c rfl]

/-- What is no blank stands in front of what is read. -/
theorem Gap.skip_cons {c : Char} {cs rest : List Char} (gap : Gap cs (c :: rest))
    (stop : isBlank c = false) : skip cs = c :: rest :=
  gap.skip_eq (by simpa using stop)

/-! ### Texts -/

theorem hexValue?_of_hexDigit {c : Char} {n : Nat} (digit : HexDigit c n) :
    hexValue? c = some n := by
  have all : ∀ n < 16, hexValue? (Nat.digitChar n) = some n ∧
      hexValue? (Nat.digitChar n).toUpper = some n := by decide
  obtain ⟨bound, rfl | rfl⟩ := digit
  · exact (all n bound).1
  · exact (all n bound).2

theorem simpleEscape?_of_escape {c d : Char} (letter : Escape c d) :
    c ≠ 'u' ∧ simpleEscape? c = some d := by
  cases letter <;> decide

/-- A text takes at least its closing quote. -/
theorem SpellsUnits.length_lt {units : List Nat} {cs rest : List Char}
    (spelled : SpellsUnits units cs rest) : rest.length < cs.length := by
  induction spelled with
  | close => simp
  | plain _ _ _ _ ih => simp only [List.length_cons]; omega
  | escape _ _ ih => simp only [List.length_cons]; omega
  | unicode _ _ _ _ _ ih => simp only [List.length_cons]; omega

/-- The units of a text are read. -/
theorem readUnits_eq {units : List Nat} {cs rest : List Char}
    (spelled : SpellsUnits units cs rest) : readUnits cs = .ok (units, rest) := by
  induction spelled with
  | close rest => simp [readUnits]
  | plain shown noQuote noBackslash others ih =>
      rw [readUnits]
      · rw [if_neg (by simpa using noQuote), if_neg (by omega), ih, andThen]
      all_goals simp [noBackslash]
  | escape letter others ih =>
      obtain ⟨notUnicode, meant⟩ := simpleEscape?_of_escape letter
      rw [readUnits]
      · simp only [meant, ih, andThen]
      all_goals simp [notUnicode]
  | @unicode a b c d i j k l units cs rest first second third fourth others ih =>
      have closed : cs.isEmpty = false := by
        cases cs with
        | nil => simpa using others.length_lt
        | cons => rfl
      have number : hexNumber? a b c d = some (4096 * i + 256 * j + 16 * k + l) := by
        simp [hexNumber?, hexValue?_of_hexDigit first, hexValue?_of_hexDigit second,
          hexValue?_of_hexDigit third, hexValue?_of_hexDigit fourth]
      rw [readUnits]
      simp only [closed, number, ih, andThen]

/-- Code points are a text of their own, whether or not all of them are characters. -/
theorem isString_ofCodes (codes : List Nat) : (Value.ofCodes codes).isString = true := by
  rw [Value.ofCodes]
  split <;> rfl

theorem SpellsText.isString {v : Value} {cs rest : List Char} (spelled : SpellsText v cs rest) :
    v.isString = true := by
  cases spelled
  exact isString_ofCodes _

/-- A text starts with its quote, and is read from there. -/
theorem SpellsText.exists_cons {v : Value} {cs rest : List Char}
    (spelled : SpellsText v cs rest) :
    ∃ inside, cs = '\x22' :: inside ∧ readText inside = .ok (v, rest) ∧
      rest.length < inside.length := by
  cases spelled with
  | quoted units => exact ⟨_, rfl, by rw [readText, readUnits_eq units]; rfl, units.length_lt⟩

theorem SpellsText.length_lt {v : Value} {cs rest : List Char} (spelled : SpellsText v cs rest) :
    rest.length < cs.length := by
  obtain ⟨inside, rfl, -, shorter⟩ := spelled.exists_cons
  simp only [List.length_cons]
  omega

/-! ### Numbers -/

/-- A text does not go on as a number would. -/
def Follows (rest : List Char) : Prop :=
  ∀ c ∈ rest.head?, c.isDigit = false ∧ c ≠ '.' ∧ c ≠ 'e' ∧ c ≠ 'E'

theorem Follows.cons {c : Char} (other : c.isDigit = false ∧ c ≠ '.' ∧ c ≠ 'e' ∧ c ≠ 'E')
    (rest : List Char) : Follows (c :: rest) := by
  simpa [Follows] using other

theorem follows_nil : Follows [] := by
  simp [Follows]

/-- Blanks go on as no number would. -/
theorem Gap.follows {cs rest : List Char} (gap : Gap cs rest) (stop : Follows rest) :
    Follows cs := by
  obtain ⟨blanks, all, rfl⟩ := gap
  cases blanks with
  | nil => exact stop
  | cons c blanks =>
      refine Follows.cons ?_ _
      rcases isBlank_iff.mp (all c List.mem_cons_self) with rfl | rfl | rfl | rfl <;> decide

theorem ne_of_isDigit {c d : Char} (digit : c.isDigit = true) (other : d.isDigit = false) :
    c ≠ d := by
  rintro rfl
  simp [digit] at other

/-- The digits before the point are split off. -/
theorem splitWhole_append {whole rest : List Char} (spelled : Whole whole)
    (stop : ∀ c ∈ rest.head?, c.isDigit = false) : splitWhole (whole ++ rest) = (whole, rest) := by
  cases spelled with
  | zero => rfl
  | @digits c cs first noZero others =>
      rw [List.cons_append, splitWhole]
      · exact Text.span_append (List.forall_mem_cons.mpr ⟨first, others⟩) stop
      · rintro rest' equal
        exact noZero (List.cons.inj equal).1

/-- The digits after the point are split off. -/
theorem splitFraction_append {fraction digits rest : List Char} (spelled : Fraction fraction digits)
    (stop : ∀ c ∈ rest.head?, c.isDigit = false) (noPoint : ∀ c ∈ rest.head?, c ≠ '.') :
    splitFraction (fraction ++ rest) = (digits, rest) := by
  cases spelled with
  | absent =>
      cases rest with
      | nil => rfl
      | cons c rest =>
          rw [List.nil_append, splitFraction]
          rintro rest' equal
          exact noPoint c rfl (List.cons.inj equal).1
  | digits given all =>
      rw [List.cons_append, splitFraction, Text.span_append all stop]
      cases digits with
      | nil => exact absurd rfl given
      | cons d digits => rfl

theorem splitSign_append {sign digits : List Char} {negative : Bool}
    (signed : ExponentSign sign negative) (given : digits ≠ [])
    (all : ∀ d ∈ digits, d.isDigit = true) (rest : List Char) :
    Number.splitSign (sign ++ (digits ++ rest)) = (negative, digits ++ rest) := by
  cases signed with
  | plus => rfl
  | minus => rfl
  | absent =>
      cases digits with
      | nil => exact absurd rfl given
      | cons d digits =>
          have digit : d.isDigit = true := all d List.mem_cons_self
          rw [List.nil_append, List.cons_append, Number.splitSign]
          · intro _ equal
            exact ne_of_isDigit digit (by decide) (List.cons.inj equal).1
          · intro _ equal
            exact ne_of_isDigit digit (by decide) (List.cons.inj equal).1

/-- The exponent is split off. -/
theorem splitExponent_append {exponent rest : List Char} {power : Option Int}
    (spelled : Exponent exponent power) (stop : Follows rest) :
    splitExponent (exponent ++ rest) = (power, rest) := by
  cases spelled with
  | absent =>
      cases rest with
      | nil => rfl
      | cons c rest =>
          obtain ⟨-, -, noSmall, noCapital⟩ := stop c rfl
          rw [List.nil_append, splitExponent, if_neg (by simp [noSmall, noCapital])]
  | @digits e sign cs negative letter signed given all =>
      have isLetter : (e == 'e' || e == 'E') = true := by simpa using letter
      have split : (cs ++ rest).span Char.isDigit = (cs, rest) :=
        Text.span_append all fun c member => (stop c member).1
      simp only [List.cons_append, List.append_assoc, splitExponent, isLetter, if_true,
        splitSign_append signed given all, split]

/-- An exponent starts with a letter. -/
theorem Exponent.head? {exponent : List Char} {power : Option Int}
    (spelled : Exponent exponent power) {rest : List Char} (stop : Follows rest) :
    ∀ c ∈ (exponent ++ rest).head?, c.isDigit = false ∧ c ≠ '.' := by
  cases spelled with
  | absent => exact fun c member => ⟨(stop c member).1, (stop c member).2.1⟩
  | digits letter =>
      rcases letter with rfl | rfl <;> simp

/-- A fraction starts with a point. -/
theorem Fraction.head? {fraction digits : List Char} (spelled : Fraction fraction digits)
    {rest : List Char} (stop : ∀ c ∈ rest.head?, c.isDigit = false) :
    ∀ c ∈ (fraction ++ rest).head?, c.isDigit = false := by
  cases spelled with
  | absent => exact stop
  | digits => simp

/-- The digits before the point start with a digit. -/
theorem Whole.exists_cons {whole : List Char} (spelled : Whole whole) :
    ∃ c cs, whole = c :: cs ∧ c.isDigit = true := by
  cases spelled with
  | zero => exact ⟨_, _, rfl, by decide⟩
  | digits first _ _ => exact ⟨_, _, rfl, first⟩

/-- A number starts with a digit, or with a minus and a digit. -/
theorem SpellsNumeral.exists_cons {n : Numeral} {cs : List Char} (spelled : SpellsNumeral n cs) :
    ∃ c others, c.isDigit = true ∧ (cs = c :: others ∨ cs = '-' :: c :: others) := by
  cases spelled with
  | @parts negative whole fraction digits exponent power wholeEq fractionEq exponentEq =>
      obtain ⟨c, others, rfl, digit⟩ := wholeEq.exists_cons
      refine ⟨c, others ++ fraction ++ exponent, digit, ?_⟩
      cases negative with
      | true => exact Or.inr (by simp)
      | false => exact Or.inl (by simp)

/-- A number is split off in its parts. -/
theorem splitNumeral?_append {n : Numeral} {cs rest : List Char} (spelled : SpellsNumeral n cs)
    (stop : Follows rest) : splitNumeral? (cs ++ rest) = some (n, rest) := by
  cases spelled with
  | @parts negative whole fraction digits exponent power wholeEq fractionEq exponentEq =>
      have afterFraction := exponentEq.head? stop
      have afterWhole := fractionEq.head? fun c member => (afterFraction c member).1
      have wholeSplit := splitWhole_append wholeEq afterWhole
      have fractionSplit := splitFraction_append fractionEq
        (fun c member => (afterFraction c member).1) fun c member => (afterFraction c member).2
      have exponentSplit := splitExponent_append exponentEq stop
      obtain ⟨c, others, rfl, digit⟩ := wholeEq.exists_cons
      have noMinus : c ≠ '-' := ne_of_isDigit digit (by decide)
      cases negative with
      | true =>
          simp only [if_true, List.append_assoc, List.cons_append, List.nil_append] at wholeSplit ⊢
          simp only [splitNumeral?, wholeSplit, fractionSplit, exponentSplit]
      | false =>
          simp only [Bool.false_eq_true, if_false, List.append_assoc, List.cons_append,
            List.nil_append] at wholeSplit ⊢
          rw [splitNumeral?]
          · simp only [wholeSplit, fractionSplit, exponentSplit]
          · rintro rest' equal
            exact noMinus (List.cons.inj equal).1

/-- No name starts as a number does. -/
theorem findSome?_names_of_digit {c : Char} (digit : c.isDigit = true) (rest : List Char) :
    (names.findSome? fun (name, v) => (Text.after? name (c :: rest)).map (v, ·)) = none ∧
      (names.findSome? fun (name, v) => (Text.after? name ('-' :: c :: rest)).map (v, ·)) = none := by
  have other : ∀ d : Char, d.isDigit = false → (d == c) = false := fun d noDigit =>
    beq_eq_false_iff_ne.mpr (ne_of_isDigit digit noDigit).symm
  simp [names, Text.after?, other 'n' (by decide), other 't' (by decide), other 'f' (by decide),
    other 'N' (by decide), other 'I' (by decide), other '-' (by decide)]

/-- A number is read. -/
theorem readScalar_append {n : Numeral} {v : Value} {cs rest : List Char}
    (spelled : SpellsNumeral n cs) (valueEq : n.value = .ok v) (stop : Follows rest) :
    readScalar (cs ++ rest) = .ok (v, rest) := by
  have noName : (names.findSome? fun (name, v) =>
      (Text.after? name (cs ++ rest)).map (v, ·)) = none := by
    obtain ⟨c, others, digit, rfl | rfl⟩ := spelled.exists_cons
    · exact (findSome?_names_of_digit digit (others ++ rest)).1
    · exact (findSome?_names_of_digit digit (others ++ rest)).2
  rw [readScalar, noName, splitNumeral?_append spelled stop]
  simp only [valueEq, Except.map]

/-! ### Values -/

mutual

/-- How many lists and dictionaries stand in each other in a value. -/
def depth : Value → Nat
  | .list items => depthOfItems items + 1
  | .dict entries => depthOfEntries entries + 1
  | _ => 0

/-- How many lists and dictionaries stand in each other in one of some items. -/
def depthOfItems : List Value → Nat
  | [] => 0
  | v :: vs => max (depth v) (depthOfItems vs)

/-- How many lists and dictionaries stand in each other in what one of some entries
holds. -/
def depthOfEntries : List (Value × Value) → Nat
  | [] => 0
  | (_, v) :: es => max (depth v) (depthOfEntries es)

end

/-- A phrase is read up to its end, with room for what stands in each other and with more steps than
it has characters. -/
def IsRead (phrase : Phrase) (cs rest : List Char) : Prop :=
  ∀ room steps, cs.length < steps + rest.length →
    match phrase with
    | .value v => depth v ≤ room → Follows rest → readValue room steps cs = .ok (v, rest)
    | .items vs => depthOfItems vs ≤ room → readItems room steps (skip cs) = .ok (vs, rest)
    | .entries es => depthOfEntries es ≤ room → readEntries room steps (skip cs) = .ok (es, rest)

/-- What starts a value is no blank, closes no list and is no mark of byte order. -/
theorem Spells.exists_cons {v : Value} {cs rest : List Char} (spelled : Spells (.value v) cs rest) :
    ∃ c others, cs = c :: others ∧ isBlank c = false ∧ c ≠ ']' ∧ c ≠ '\uFEFF' := by
  cases spelled with
  | null | truth | falsity => exact ⟨_, _, rfl, by decide, by decide, by decide⟩
  | number spelled =>
      obtain ⟨c, others, digit, rfl | rfl⟩ := spelled.exists_cons
      · have noBlank : isBlank c = false := by
          rw [← Bool.not_eq_true, isBlank_iff]
          rintro (rfl | rfl | rfl | rfl) <;> exact absurd digit (by decide)
        exact ⟨_, _, rfl, noBlank, ne_of_isDigit digit (by decide), ne_of_isDigit digit (by decide)⟩
      · exact ⟨_, _, rfl, by decide, by decide, by decide⟩
  | text spelled =>
      obtain ⟨inside, rfl, -⟩ := spelled.exists_cons
      exact ⟨_, _, rfl, by decide, by decide, by decide⟩
  | emptyList | list | emptyDict | dict => exact ⟨_, _, rfl, by decide, by decide, by decide⟩

/-- Every phrase takes some of the text. -/
theorem Spells.length_lt {phrase : Phrase} {cs rest : List Char}
    (spelled : Spells phrase cs rest) : rest.length < cs.length := by
  induction spelled with
  | null rest | truth rest | falsity rest =>
      rw [List.length_append]
      exact Nat.lt_add_of_pos_left (by decide)
  | number spelled _ rest =>
      rcases spelled.exists_cons with ⟨c, others, -, rfl | rfl⟩
      · simp only [List.cons_append, List.length_cons, List.length_append]
        omega
      · simp only [List.cons_append, List.length_cons, List.length_append]
        omega
  | text spelled => exact spelled.length_lt
  | emptyList inside | emptyDict inside =>
      have := inside.length_le
      simp only [List.length_cons] at this ⊢
      omega
  | list _ ih | dict _ _ ih => simp only [List.length_cons]; omega
  | lastItem before _ after ih =>
      have := before.length_le
      have := after.length_le
      simp only [List.length_cons] at this
      omega
  | item before _ after _ ih others =>
      have := before.length_le
      have := after.length_le
      simp only [List.length_cons] at this
      omega
  | lastEntry before key between gap _ after ih =>
      have := before.length_le
      have := key.length_lt
      have := gap.length_le
      have := between.length_le
      have := after.length_le
      simp only [List.length_cons] at *
      omega
  | entry before key between gap _ after _ ih others =>
      have := before.length_le
      have := key.length_lt
      have := gap.length_le
      have := between.length_le
      have := after.length_le
      simp only [List.length_cons] at *
      omega

/-- What starts with none of a quote, a bracket and a brace is read by name or as a number. -/
theorem readValue_of_scalar {c : Char} (noText : c ≠ '\x22') (noList : c ≠ '[')
    (noDict : c ≠ '\x7b') (room steps : Nat) (cs : List Char) :
    readValue room (steps + 1) (c :: cs) = readScalar (c :: cs) := by
  rw [readValue]
  all_goals simp [noText, noList, noDict]

/-- A step is left as long as a text goes on. -/
theorem exists_step {cs rest : List Char} {steps : Nat} (enough : cs.length < steps + rest.length)
    (shorter : rest.length < cs.length) : ∃ fewer, steps = fewer + 1 :=
  ⟨steps - 1, by omega⟩

/-- The end of a list does not go on as a number would, nor does the end of an item or an entry. -/
theorem follows_bracket (rest : List Char) : Follows (']' :: rest) :=
  Follows.cons (by decide) rest

theorem follows_brace (rest : List Char) : Follows ('\x7d' :: rest) :=
  Follows.cons (by decide) rest

theorem follows_comma (rest : List Char) : Follows (',' :: rest) :=
  Follows.cons (by decide) rest

/-- The keys that a text spells are texts. -/
theorem Spells.isString {phrase : Phrase} {cs rest : List Char} (spelled : Spells phrase cs rest) :
    ∀ es, phrase = .entries es → ∀ e ∈ es, e.1.isString = true := by
  induction spelled with
  | lastEntry _ key =>
      rintro es ⟨⟩
      simpa using key.isString
  | entry _ key _ _ _ _ _ _ others =>
      rintro es ⟨⟩
      exact List.forall_mem_cons.mpr ⟨key.isString, others _ rfl⟩
  | _ => simp

/-- The first item of a list stands behind blanks, and does not close the list. -/
theorem Spells.exists_item {items : List Value} {cs rest : List Char}
    (spelled : Spells (.items items) cs rest) : ∃ c others, skip cs = c :: others ∧ c ≠ ']' := by
  cases spelled with
  | lastItem before item | item before item =>
      obtain ⟨c, others, rfl, noBlank, noEnd, -⟩ := item.exists_cons
      exact ⟨c, others, before.skip_cons noBlank, noEnd⟩

/-- The first key of a dictionary stands behind blanks. -/
theorem Spells.exists_key {entries : List (Value × Value)} {cs rest : List Char}
    (spelled : Spells (.entries entries) cs rest) : ∃ inside, skip cs = '\x22' :: inside := by
  cases spelled with
  | lastEntry before key | entry before key =>
      obtain ⟨inside, rfl, -⟩ := key.exists_cons
      exact ⟨inside, before.skip_cons rfl⟩

/-! ### Steps through lists and dictionaries -/

section

variable {room steps : Nat} {k v : Value} {cs name colon place start stop next rest : List Char}

/-- The last item of a list is read up to the bracket. -/
theorem readItems_last (before : Gap cs start) (item : Spells (.value v) start stop)
    (after : Gap stop (']' :: rest)) (first : readValue room steps start = .ok (v, stop)) :
    readItems room (steps + 1) (skip cs) = .ok ([v], rest) := by
  obtain ⟨c, others, rfl, noBlank, -⟩ := item.exists_cons
  rw [before.skip_cons noBlank, readItems, first, Attempt.ok_do]
  simp only [after.skip_cons rfl]
  rfl

/-- An item before others is read, and then the others. -/
theorem readItems_cons {vs : List Value} (before : Gap cs start)
    (item : Spells (.value v) start stop) (after : Gap stop (',' :: next))
    (first : readValue room steps start = .ok (v, stop))
    (later : readItems room steps (skip next) = .ok (vs, rest)) :
    readItems room (steps + 1) (skip cs) = .ok (v :: vs, rest) := by
  obtain ⟨c, others, rfl, noBlank, -⟩ := item.exists_cons
  rw [before.skip_cons noBlank, readItems, first, Attempt.ok_do]
  simp only [after.skip_cons rfl, later, Attempt.ok_do]
  rfl

variable (before : Gap cs name) (key : SpellsText k name colon)
  (between : Gap colon (':' :: place)) (gap : Gap place start)
  (held : Spells (.value v) start stop)

include before key between gap held

/-- The last entry of a dictionary is read up to the brace. -/
theorem readEntries_last (after : Gap stop ('\x7d' :: rest))
    (first : readValue room steps start = .ok (v, stop)) :
    readEntries room (steps + 1) (skip cs) = .ok ([(k, v)], rest) := by
  obtain ⟨inside, rfl, keyEq, -⟩ := key.exists_cons
  obtain ⟨c, others, rfl, noBlank, -⟩ := held.exists_cons
  rw [before.skip_cons rfl, readEntries, keyEq, Attempt.ok_do]
  simp only [between.skip_cons rfl, gap.skip_cons noBlank, first, Attempt.ok_do,
    after.skip_cons rfl]
  rfl

/-- An entry before others is read, and then the others. -/
theorem readEntries_cons {es : List (Value × Value)} (after : Gap stop (',' :: next))
    (first : readValue room steps start = .ok (v, stop))
    (later : readEntries room steps (skip next) = .ok (es, rest)) :
    readEntries room (steps + 1) (skip cs) = .ok ((k, v) :: es, rest) := by
  obtain ⟨inside, rfl, keyEq, -⟩ := key.exists_cons
  obtain ⟨c, others, rfl, noBlank, -⟩ := held.exists_cons
  rw [before.skip_cons rfl, readEntries, keyEq, Attempt.ok_do]
  simp only [between.skip_cons rfl, gap.skip_cons noBlank, first, Attempt.ok_do,
    after.skip_cons rfl, later]
  rfl

end

/-- What a text spells is read from it. -/
theorem Spells.isRead {phrase : Phrase} {cs rest : List Char} (spelled : Spells phrase cs rest) :
    IsRead phrase cs rest := by
  -- By how the text spells it.  A step is spent on every value, item and entry, and each of them
  -- takes a character at least, so that the steps last as long as the text does.
  induction spelled with
  | null rest =>
      intro room steps enough _ _
      obtain ⟨fewer, rfl⟩ := exists_step enough (Spells.null rest).length_lt
      rfl
  | truth rest =>
      intro room steps enough _ _
      obtain ⟨fewer, rfl⟩ := exists_step enough (Spells.truth rest).length_lt
      rfl
  | falsity rest =>
      intro room steps enough _ _
      obtain ⟨fewer, rfl⟩ := exists_step enough (Spells.falsity rest).length_lt
      rfl
  | @number n v cs spelled valueEq rest =>
      intro room steps enough _ stop
      have shorter := (Spells.number spelled valueEq rest).length_lt
      obtain ⟨fewer, rfl⟩ := exists_step enough shorter
      rw [← readScalar_append spelled valueEq stop]
      obtain ⟨c, others, digit, rfl | rfl⟩ := spelled.exists_cons
      · exact readValue_of_scalar (ne_of_isDigit digit (by decide))
          (ne_of_isDigit digit (by decide)) (ne_of_isDigit digit (by decide)) room fewer _
      · exact readValue_of_scalar (by decide) (by decide) (by decide) room fewer _
  | text spelled =>
      intro room steps enough _ _
      obtain ⟨fewer, rfl⟩ := exists_step enough spelled.length_lt
      obtain ⟨inside, rfl, isRead, -⟩ := spelled.exists_cons
      rw [readValue, isRead]
  | emptyList inside =>
      intro room steps enough fits _
      obtain ⟨fewer, rfl⟩ := exists_step enough (Spells.emptyList inside).length_lt
      rw [depth] at fits
      rw [readValue, if_neg (by omega), inside.skip_cons rfl]
      rfl
  | @list v vs cs rest inside ih =>
      intro room steps enough fits _
      obtain ⟨fewer, rfl⟩ := exists_step enough (Spells.list inside).length_lt
      rw [depth] at fits
      rw [List.length_cons] at enough
      have items := ih (room - 1) fewer (by omega) (by omega)
      obtain ⟨c, others, start, noEnd⟩ := inside.exists_item
      rw [start] at items
      rw [readValue, if_neg (by omega), start]
      split
      · exact absurd (List.cons.inj ‹_›).1 noEnd
      · rw [items]
        rfl
  | emptyDict inside =>
      intro room steps enough fits _
      obtain ⟨fewer, rfl⟩ := exists_step enough (Spells.emptyDict inside).length_lt
      rw [depth] at fits
      rw [readValue, if_neg (by omega), inside.skip_cons rfl]
      rfl
  | @dict e es cs rest inside distinct ih =>
      intro room steps enough fits _
      obtain ⟨fewer, rfl⟩ := exists_step enough (Spells.dict inside distinct).length_lt
      rw [depth] at fits
      rw [List.length_cons] at enough
      have entries := ih (room - 1) fewer (by omega) (by omega)
      obtain ⟨name, start⟩ := inside.exists_key
      rw [start] at entries
      rw [readValue, if_neg (by omega), start]
      split
      · exact absurd (List.cons.inj ‹_›).1 (by decide)
      · rw [entries, ← Value.dictOf_eq_dict (inside.isString _ rfl) distinct]
        rfl
  | @lastItem v cs start stop rest before item after ih =>
      intro room steps enough fits
      obtain ⟨fewer, rfl⟩ := exists_step enough (Spells.lastItem before item after).length_lt
      have beforeLength := before.length_le
      have afterLength := after.length_le
      rw [List.length_cons] at afterLength
      rw [depthOfItems] at fits
      exact readItems_last before item after
        (ih room fewer (by omega) (by omega) (after.follows (follows_bracket rest)))
  | @item v w vs cs start stop next rest before item after later ih others =>
      intro room steps enough fits
      obtain ⟨fewer, rfl⟩ := exists_step enough (Spells.item before item after later).length_lt
      have beforeLength := before.length_le
      have afterLength := after.length_le
      have itemLength := item.length_lt
      have laterLength := later.length_lt
      rw [List.length_cons] at afterLength
      rw [depthOfItems] at fits
      exact readItems_cons before item after
        (ih room fewer (by omega) (by omega) (after.follows (follows_comma next)))
        (others room fewer (by omega) (by omega))
  | @lastEntry k v cs name colon place start stop rest before key between gap held after ih =>
      intro room steps enough fits
      have shorter := (Spells.lastEntry before key between gap held after).length_lt
      obtain ⟨fewer, rfl⟩ := exists_step enough shorter
      have beforeLength := before.length_le
      have keyLength := key.length_lt
      have betweenLength := between.length_le
      have gapLength := gap.length_le
      have afterLength := after.length_le
      rw [List.length_cons] at betweenLength afterLength
      rw [depthOfEntries] at fits
      exact readEntries_last before key between gap held after
        (ih room fewer (by omega) (by omega) (after.follows (follows_brace rest)))
  | @entry k v e es cs name colon place start stop next rest before key between gap held after
      later ih others =>
      intro room steps enough fits
      have shorter := (Spells.entry before key between gap held after later).length_lt
      obtain ⟨fewer, rfl⟩ := exists_step enough shorter
      have beforeLength := before.length_le
      have keyLength := key.length_lt
      have betweenLength := between.length_le
      have gapLength := gap.length_le
      have heldLength := held.length_lt
      have afterLength := after.length_le
      have laterLength := later.length_lt
      rw [List.length_cons] at betweenLength afterLength
      rw [depthOfEntries] at fits
      exact readEntries_cons before key between gap held after
        (ih room fewer (by omega) (by omega) (after.follows (follows_comma next)))
        (others room fewer (by omega) (by omega))

/-! ### Texts as a whole -/

/-- Read a text as one value, with room for some lists and dictionaries in each other. -/
def readWithin (room : Nat) (s : String) : Except Fault Value :=
  let cs := s.toList
  if cs.head? == some '\uFEFF' then .error .byteOrderMark
  else do
    let (v, rest) ← readValue room (cs.length + 1) (skip cs)
    if (skip rest).isEmpty then return v else throw .extraData

/-- Texts are read with the room there is. -/
theorem read_eq_readWithin : read = readWithin depthLimit :=
  rfl

/-- No mark of byte order stands in front of a value. -/
theorem Gap.head?_ne {cs start : List Char} (gap : Gap cs start)
    (other : ∀ c ∈ start.head?, c ≠ '\uFEFF') : cs.head? ≠ some '\uFEFF' := by
  obtain ⟨blanks, all, rfl⟩ := gap
  cases blanks with
  | nil => exact fun mark => other _ mark rfl
  | cons c blanks =>
      rw [List.cons_append, List.head?_cons, ne_eq, Option.some.injEq]
      rintro rfl
      exact absurd (all _ List.mem_cons_self) (by decide)

/-- A text that is JSON for a value is read as this value, if there is room. -/
theorem Denotes.readWithin {s : String} {v : Value} (denotes : Denotes s v) {room : Nat}
    (fits : depth v ≤ room) : Json.readWithin room s = .ok v := by
  obtain ⟨start, stop, before, spelled, after⟩ := denotes
  have beforeLength := before.length_le
  have readEq := spelled.isRead room (s.toList.length + 1) (by omega) fits
    (after.follows follows_nil)
  obtain ⟨c, others, rfl, noBlank, -, noMark⟩ := spelled.exists_cons
  have unmarked := before.head?_ne (by simpa using noMark)
  have ended : skip stop = [] := after.skip_eq (by simp)
  rw [Json.readWithin]
  simp only [beq_eq_false_iff_ne.mpr unmarked, Bool.false_eq_true, if_false,
    before.skip_cons noBlank, readEq, Attempt.ok_do, ended, List.isEmpty_nil, if_true]
  rfl

/-- No text is JSON for two values. -/
theorem Denotes.unique {s : String} {v w : Value} (denotes : Denotes s v) (other : Denotes s w) :
    v = w :=
  Except.ok.inj ((denotes.readWithin (Nat.le_max_left (depth v) (depth w))).symm.trans
    (other.readWithin (Nat.le_max_right (depth v) (depth w))))

end ApiContract.Json
