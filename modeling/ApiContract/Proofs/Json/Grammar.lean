import ApiContract.Json.Reader
import ApiContract.Proofs.Entries

/-!
# The grammar of JSON

`Spells phrase cs rest` says that a text `cs` starts with a phrase of JSON and goes
on with `rest`: with a value, or with the items of a list or the entries of a
dictionary up to the bracket or brace that closes it.  A text is JSON for a value
if it spells the value with nothing but blanks around it.

The grammar is the whole of JSON, but for dictionaries in which a name occurs
twice: of these it is not said what they mean.  Neither are the names of
infinities, which readers may know besides, part of it.
-/

namespace ApiContract

namespace Json

/-! ### Blanks -/

/-- Nothing but blanks stands between two places of a text. -/
def Gap (cs rest : List Char) : Prop :=
  ∃ blanks, (∀ c ∈ blanks, isBlank c = true) ∧ cs = blanks ++ rest

theorem Gap.refl (cs : List Char) : Gap cs cs :=
  ⟨[], by simp, rfl⟩

theorem Gap.cons {c : Char} {cs rest : List Char} (blank : isBlank c = true) (gap : Gap cs rest) :
    Gap (c :: cs) rest := by
  obtain ⟨blanks, all, rfl⟩ := gap
  exact ⟨c :: blanks, List.forall_mem_cons.mpr ⟨blank, all⟩, rfl⟩

/-! ### Texts -/

/-- The character that a letter after a backslash stands for. -/
inductive Escape : Char → Char → Prop
  | quote : Escape '\x22' '\x22'
  | backslash : Escape '\\' '\\'
  | slash : Escape '/' '/'
  | backspace : Escape 'b' '\x08'
  | formFeed : Escape 'f' '\x0c'
  | lineFeed : Escape 'n' '\n'
  | carriageReturn : Escape 'r' '\r'
  | tab : Escape 't' '\t'

/-- A digit in base sixteen, in small or capital letters, and its value. -/
def HexDigit (c : Char) (n : Nat) : Prop :=
  n < 16 ∧ (c = Nat.digitChar n ∨ c = (Nat.digitChar n).toUpper)

/-- The units that a text spells up to the closing quote. -/
inductive SpellsUnits : List Nat → List Char → List Char → Prop
  | close (rest : List Char) : SpellsUnits [] ('\x22' :: rest) rest
  | plain {c : Char} {units : List Nat} {cs rest : List Char} (shown : 0x20 ≤ c.toNat)
      (noQuote : c ≠ '\x22') (noBackslash : c ≠ '\\') (others : SpellsUnits units cs rest) :
      SpellsUnits (c.toNat :: units) (c :: cs) rest
  | escape {c d : Char} {units : List Nat} {cs rest : List Char} (letter : Escape c d)
      (others : SpellsUnits units cs rest) :
      SpellsUnits (d.toNat :: units) ('\\' :: c :: cs) rest
  | unicode {a b c d : Char} {i j k l : Nat} {units : List Nat} {cs rest : List Char}
      (first : HexDigit a i) (second : HexDigit b j) (third : HexDigit c k)
      (fourth : HexDigit d l) (others : SpellsUnits units cs rest) :
      SpellsUnits ((4096 * i + 256 * j + 16 * k + l) :: units)
        ('\\' :: 'u' :: a :: b :: c :: d :: cs) rest

/-- A text in quotes: what its units are joined to. -/
inductive SpellsText : Value → List Char → List Char → Prop
  | quoted {units : List Nat} {cs rest : List Char} (inside : SpellsUnits units cs rest) :
      SpellsText (Value.ofCodes (Text.joinUnits units)) ('\x22' :: cs) rest

/-! ### Numbers -/

/-- The digits before the point: a zero, or digits of which the first is no zero. -/
inductive Whole : List Char → Prop
  | zero : Whole ['0']
  | digits {c : Char} {cs : List Char} (first : c.isDigit = true) (noZero : c ≠ '0')
      (others : ∀ d ∈ cs, d.isDigit = true) : Whole (c :: cs)

/-- Digits after a point, or nothing. -/
inductive Fraction : List Char → List Char → Prop
  | absent : Fraction [] []
  | digits {cs : List Char} (given : cs ≠ []) (all : ∀ d ∈ cs, d.isDigit = true) :
      Fraction ('.' :: cs) cs

/-- The sign of an exponent: whether it is a minus. -/
inductive ExponentSign : List Char → Bool → Prop
  | absent : ExponentSign [] false
  | plus : ExponentSign ['+'] false
  | minus : ExponentSign ['-'] true

/-- An exponent, or nothing. -/
inductive Exponent : List Char → Option Int → Prop
  | absent : Exponent [] none
  | digits {e : Char} {sign cs : List Char} {negative : Bool} (letter : e = 'e' ∨ e = 'E')
      (signed : ExponentSign sign negative) (given : cs ≠ []) (all : ∀ d ∈ cs, d.isDigit = true) :
      Exponent (e :: sign ++ cs)
        (some (if negative then -(Number.ofDigits cs : Int) else Number.ofDigits cs))

/-- The text of a number, part by part. -/
inductive SpellsNumeral : Numeral → List Char → Prop
  | parts {negative : Bool} {whole fraction digits exponent : List Char} {power : Option Int}
      (wholeEq : Whole whole) (fractionEq : Fraction fraction digits)
      (exponentEq : Exponent exponent power) :
      SpellsNumeral ⟨negative, whole, digits, power⟩
        ((if negative then ['-'] else []) ++ whole ++ fraction ++ exponent)

/-! ### Values -/

/-- What a text may spell: a value, the items of a list, or the entries of a
dictionary. -/
inductive Phrase where
  | value (v : Value)
  | items (items : List Value)
  | entries (entries : List (Value × Value))

/-- What a text spells, up to the rest of it. -/
inductive Spells : Phrase → List Char → List Char → Prop
  | null (rest : List Char) : Spells (.value .null) ("null".toList ++ rest) rest
  | truth (rest : List Char) : Spells (.value (.bool true)) ("true".toList ++ rest) rest
  | falsity (rest : List Char) : Spells (.value (.bool false)) ("false".toList ++ rest) rest
  | number {n : Numeral} {v : Value} {cs : List Char} (spelled : SpellsNumeral n cs)
      (valueEq : n.value = .ok v) (rest : List Char) : Spells (.value v) (cs ++ rest) rest
  | text {v : Value} {cs rest : List Char} (spelled : SpellsText v cs rest) :
      Spells (.value v) cs rest
  | emptyList {cs rest : List Char} (inside : Gap cs (']' :: rest)) :
      Spells (.value (.list [])) ('[' :: cs) rest
  | list {v : Value} {vs : List Value} {cs rest : List Char}
      (inside : Spells (.items (v :: vs)) cs rest) :
      Spells (.value (.list (v :: vs))) ('[' :: cs) rest
  | emptyDict {cs rest : List Char} (inside : Gap cs ('\x7d' :: rest)) :
      Spells (.value (.dict [])) ('\x7b' :: cs) rest
  | dict {e : Value × Value} {es : List (Value × Value)} {cs rest : List Char}
      (inside : Spells (.entries (e :: es)) cs rest) (distinct : (Entries.keys (e :: es)).Nodup) :
      Spells (.value (.dict (e :: es))) ('\x7b' :: cs) rest
  | lastItem {v : Value} {cs start stop rest : List Char} (before : Gap cs start)
      (item : Spells (.value v) start stop) (after : Gap stop (']' :: rest)) :
      Spells (.items [v]) cs rest
  | item {v w : Value} {vs : List Value} {cs start stop next rest : List Char}
      (before : Gap cs start) (item : Spells (.value v) start stop) (after : Gap stop (',' :: next))
      (others : Spells (.items (w :: vs)) next rest) : Spells (.items (v :: w :: vs)) cs rest
  | lastEntry {k v : Value} {cs name colon place start stop rest : List Char} (before : Gap cs name)
      (key : SpellsText k name colon) (between : Gap colon (':' :: place)) (gap : Gap place start)
      (held : Spells (.value v) start stop) (after : Gap stop ('\x7d' :: rest)) :
      Spells (.entries [(k, v)]) cs rest
  | entry {k v : Value} {e : Value × Value} {es : List (Value × Value)}
      {cs name colon place start stop next rest : List Char} (before : Gap cs name)
      (key : SpellsText k name colon) (between : Gap colon (':' :: place)) (gap : Gap place start)
      (held : Spells (.value v) start stop) (after : Gap stop (',' :: next))
      (others : Spells (.entries (e :: es)) next rest) : Spells (.entries ((k, v) :: e :: es)) cs rest

/-- A text is JSON for a value. -/
def Denotes (text : String) (v : Value) : Prop :=
  ∃ start stop, Gap text.toList start ∧ Spells (.value v) start stop ∧ Gap stop []

end Json

end ApiContract
