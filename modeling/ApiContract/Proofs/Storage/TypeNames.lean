import ApiContract.Proofs.Text.CharClass
import ApiContract.Storage.SqlType

/-!
# The names of column types

A column type is named by one of some texts, some of them with a part in parentheses
behind or inside.  The names of the five kinds differ within the first two letters,
so no name is one of two kinds, and the kinds may be tried in any order.  Blanks
around a name and the case of its letters do not count, as the name is brought to
its normal form first.
-/

namespace ApiContract.SqlType

/-- A text is a name, alone or with a part in parentheses on one line behind it. -/
inductive Sized (name : List Char) : List Char → Prop
  | alone : Sized name name
  | parenthesized {inside : List Char} (oneLine : '\n' ∉ inside) :
      Sized name (name ++ '(' :: (inside ++ [')']))

/-- A text is empty, or decimal digits in parentheses. -/
inductive Precision : List Char → Prop
  | none : Precision []
  | digits {digits : List Char} (some : digits ≠ [])
      (decimal : ∀ c ∈ digits, Text.isDecimal c = true) : Precision ('(' :: (digits ++ [')']))

/-- A text in small letters names a type of a kind. -/
inductive Names : ColumnKind → List Char → Prop
  | number {name : String}
      (listed : name ∈ ["integer", "bigint", "smallint", "double precision", "real"]) :
      Names .number name.toList
  | sizedNumber {name : String} {cs : List Char} (listed : name ∈ ["numeric", "decimal"])
      (sized : Sized name.toList cs) : Names .number cs
  | string {name : String} (listed : name ∈ ["string", "text", "uuid"]) :
      Names .string name.toList
  | sizedString {name : String} {cs : List Char}
      (listed : name ∈ ["character varying", "varchar", "character", "char"])
      (sized : Sized name.toList cs) : Names .string cs
  | boolean : Names .boolean "boolean".toList
  | dateTime {name : String} (listed : name ∈ ["date", "timestamp", "timestamptz"]) :
      Names .dateTime name.toList
  | zoned {precision : List Char} {zone : String} (precise : Precision precision)
      (listed : zone ∈ [" with time zone", " without time zone"]) :
      Names .dateTime ("timestamp".toList ++ (precision ++ zone.toList))
  | object {name : String} (listed : name ∈ ["json", "jsonb"]) : Names .object name.toList

/-- The test for the types of a kind. -/
def isKind : ColumnKind → List Char → Bool
  | .number => isNumber
  | .string => isString
  | .boolean => isBoolean
  | .dateTime => isDateTime
  | .object => isObject

variable {cs rest : List Char} {names : List String} {kind other : ColumnKind}

/-! ### The tests -/

theorem any_toList_eq_iff :
    names.any (·.toList == cs) = true ↔ ∃ name ∈ names, name.toList = cs := by
  simp [List.any_eq_true]

theorem isSuffix_iff :
    isSuffix rest = true ↔ rest = [] ∨ ∃ inside, '\n' ∉ inside ∧ rest = '(' :: (inside ++ [')']) := by
  constructor
  · intro suffix
    rw [isSuffix.eq_def] at suffix
    split at suffix
    · exact .inl rfl
    · rename_i rest
      simp only [Bool.and_eq_true, beq_iff_eq, Bool.not_eq_true', List.contains_eq_mem,
        decide_eq_false_iff_not, List.getLast?_eq_some_iff] at suffix
      obtain ⟨⟨inside, rfl⟩, oneLine⟩ := suffix
      rw [List.dropLast_concat] at oneLine
      exact .inr ⟨inside, oneLine, rfl⟩
    · cases suffix
  · rintro (rfl | ⟨inside, oneLine, rfl⟩)
    · rfl
    · simp [isSuffix, oneLine]

theorem isSized_iff : isSized names cs = true ↔ ∃ name ∈ names, Sized name.toList cs := by
  simp only [isSized, List.any_eq_true, Option.any_eq_true, Text.after?_eq_some_iff, isSuffix_iff]
  refine exists_congr fun name => and_congr_right fun _ => ?_
  constructor
  · rintro ⟨rest, rfl, rfl | ⟨inside, oneLine, rfl⟩⟩
    · rw [List.append_nil]
      exact .alone
    · exact .parenthesized oneLine
  · intro sized
    cases sized with
    | alone => exact ⟨[], (List.append_nil _).symm, .inl rfl⟩
    | parenthesized oneLine => exact ⟨_, rfl, .inr ⟨_, oneLine, rfl⟩⟩

/-- A precision is dropped. -/
theorem dropPrecision_append {precision : List Char} (precise : Precision precision)
    (stop : ∀ c ∈ rest.head?, c ≠ '(') : dropPrecision (precision ++ rest) = rest := by
  cases precise with
  | none =>
      have other : Text.after? ['('] rest = none := by
        rw [Option.eq_none_iff_forall_ne_some]
        rintro others found
        rw [Text.after?_eq_some_iff] at found
        exact stop '(' (by simp [found]) rfl
      rw [List.nil_append, dropPrecision, other]
  | @digits digits some decimal =>
      obtain ⟨first, others, rfl⟩ := List.exists_cons_of_ne_nil some
      have run : (first :: others ++ ')' :: rest).span Text.isDecimal =
          (first :: others, ')' :: rest) :=
        Text.span_append decimal (by simp; decide)
      have opened : Text.after? ['('] ('(' :: (first :: others ++ [')']) ++ rest) =
          Option.some (first :: others ++ ')' :: rest) := by
        rw [Text.after?_eq_some_iff]
        simp
      simp only [dropPrecision, opened, run]

/-- What is left without a precision is left behind one. -/
theorem exists_of_dropPrecision (cs : List Char) :
    ∃ precision, Precision precision ∧ cs = precision ++ dropPrecision cs := by
  rw [dropPrecision]
  split
  · exact ⟨[], .none, rfl⟩
  · rename_i rest opened
    rw [Text.after?_eq_some_iff] at opened
    have parts := List.takeWhile_append_dropWhile (p := Text.isDecimal) (l := rest)
    rw [List.span_eq_takeWhile_dropWhile]
    split
    · rename_i first others rest' spanned
      obtain ⟨run, left⟩ := Prod.mk.inj spanned
      have decimal : ∀ c ∈ first :: others, Text.isDecimal c = true := by
        rw [← run]
        exact fun c member => List.mem_takeWhile_imp member
      refine ⟨_, .digits (List.cons_ne_nil first others) decimal, ?_⟩
      rw [opened, ← parts, run, left]
      simp
    · exact ⟨[], .none, rfl⟩

theorem isZoned_iff :
    isZoned cs = true ↔ ∃ precision zone, Precision precision ∧
      zone ∈ [" with time zone", " without time zone"] ∧
      cs = "timestamp".toList ++ (precision ++ zone.toList) := by
  simp only [isZoned, Option.any_eq_true, Text.after?_eq_some_iff, Bool.or_eq_true, beq_iff_eq]
  constructor
  · rintro ⟨rest, rfl, zoned⟩
    obtain ⟨precision, precise, parts⟩ := exists_of_dropPrecision rest
    rcases zoned with zone | zone
    · exact ⟨precision, " with time zone", precise, by decide, by rw [← zone, ← parts]⟩
    · exact ⟨precision, " without time zone", precise, by decide, by rw [← zone, ← parts]⟩
  · rintro ⟨precision, zone, precise, listed, rfl⟩
    have blank : ∀ zone ∈ [" with time zone", " without time zone"],
        zone.toList.head? = some ' ' := by decide
    have stop : ∀ c ∈ zone.toList.head?, c ≠ '(' := by simp [blank zone listed]
    refine ⟨_, rfl, ?_⟩
    rw [dropPrecision_append precise stop]
    simp only [List.mem_cons, List.not_mem_nil, or_false] at listed
    exact listed.imp (congrArg String.toList) (congrArg String.toList)

/-- A text passes the test for a kind if it names a type of that kind. -/
theorem isKind_iff : isKind kind cs = true ↔ Names kind cs := by
  cases kind with
  | number =>
      rw [isKind, isNumber, Bool.or_eq_true, any_toList_eq_iff, isSized_iff]
      constructor
      · rintro (⟨name, listed, rfl⟩ | ⟨name, listed, sized⟩)
        · exact .number listed
        · exact .sizedNumber listed sized
      · intro names
        cases names with
        | number listed => exact .inl ⟨_, listed, rfl⟩
        | sizedNumber listed sized => exact .inr ⟨_, listed, sized⟩
  | string =>
      rw [isKind, isString, Bool.or_eq_true, any_toList_eq_iff, isSized_iff]
      constructor
      · rintro (⟨name, listed, rfl⟩ | ⟨name, listed, sized⟩)
        · exact .string listed
        · exact .sizedString listed sized
      · intro names
        cases names with
        | string listed => exact .inl ⟨_, listed, rfl⟩
        | sizedString listed sized => exact .inr ⟨_, listed, sized⟩
  | boolean =>
      rw [isKind, isBoolean, beq_iff_eq]
      constructor
      · rintro rfl
        exact .boolean
      · intro names
        cases names
        rfl
  | dateTime =>
      rw [isKind, isDateTime, Bool.or_eq_true, any_toList_eq_iff, isZoned_iff]
      constructor
      · rintro (⟨name, listed, rfl⟩ | ⟨precision, zone, precise, listed, rfl⟩)
        · exact .dateTime listed
        · exact .zoned precise listed
      · intro names
        cases names with
        | dateTime listed => exact .inl ⟨_, listed, rfl⟩
        | zoned precise listed => exact .inr ⟨_, _, precise, listed, rfl⟩
  | object =>
      rw [isKind, isObject, any_toList_eq_iff]
      constructor
      · rintro ⟨name, listed, rfl⟩
        exact .object listed
      · intro names
        cases names with
        | object listed => exact ⟨_, listed, rfl⟩

/-! ### The kinds are apart -/

/-- The first two letters of the names of a kind. -/
def starts : ColumnKind → List (List Char)
  | .number => ["in", "bi", "sm", "do", "re", "nu", "de"].map String.toList
  | .string => ["st", "te", "uu", "ch", "va"].map String.toList
  | .boolean => ["bo".toList]
  | .dateTime => ["da", "ti"].map String.toList
  | .object => ["js".toList]

theorem Sized.take {name : List Char} (sized : Sized name cs) (long : 2 ≤ name.length) :
    cs.take 2 = name.take 2 := by
  cases sized with
  | alone => rfl
  | parenthesized => rw [List.take_append_of_le_length long]

theorem Names.take_mem_starts (names : Names kind cs) : cs.take 2 ∈ starts kind := by
  cases names with
  | number listed =>
      have each : ∀ name ∈ ["integer", "bigint", "smallint", "double precision", "real"],
          name.toList.take 2 ∈ starts .number := by decide
      exact each _ listed
  | sizedNumber listed sized =>
      have each : ∀ name ∈ ["numeric", "decimal"],
          2 ≤ name.toList.length ∧ name.toList.take 2 ∈ starts .number := by decide
      obtain ⟨long, start⟩ := each _ listed
      rwa [sized.take long]
  | string listed =>
      have each : ∀ name ∈ ["string", "text", "uuid"],
          name.toList.take 2 ∈ starts .string := by decide
      exact each _ listed
  | sizedString listed sized =>
      have each : ∀ name ∈ ["character varying", "varchar", "character", "char"],
          2 ≤ name.toList.length ∧ name.toList.take 2 ∈ starts .string := by decide
      obtain ⟨long, start⟩ := each _ listed
      rwa [sized.take long]
  | boolean => decide
  | dateTime listed =>
      have each : ∀ name ∈ ["date", "timestamp", "timestamptz"],
          name.toList.take 2 ∈ starts .dateTime := by decide
      exact each _ listed
  | zoned precise listed =>
      rw [List.take_append_of_le_length (by decide)]
      decide
  | object listed =>
      have each : ∀ name ∈ ["json", "jsonb"], name.toList.take 2 ∈ starts .object := by decide
      exact each _ listed

/-- The kinds have no start in common. -/
theorem eq_of_mem_starts {start : List Char} (first : start ∈ starts kind)
    (second : start ∈ starts other) : kind = other := by
  have apart : ∀ start ∈ starts kind, start ∈ starts other → kind = other := by
    cases kind <;> cases other <;> decide
  exact apart start first second

/-- No text names types of two kinds. -/
theorem Names.unique (first : Names kind cs) (second : Names other cs) : kind = other :=
  eq_of_mem_starts first.take_mem_starts second.take_mem_starts

/-! ### The kind of a type -/

/-- The kinds in the order of their tests. -/
theorem kindOf?_eq_find? (cs : List Char) :
    kindOf? cs = [.number, .string, .boolean, .dateTime, .object].find? (isKind · cs) := by
  simp only [kindOf?, List.find?_cons, List.find?_nil, isKind]
  grind

/-- Tests for the kinds, in any order, find the kind that a text names. -/
theorem find?_isKind_eq_some_iff {order : List ColumnKind} (all : ∀ kind, kind ∈ order) :
    order.find? (isKind · cs) = some kind ↔ Names kind cs := by
  constructor
  · intro found
    exact isKind_iff.mp (List.find?_some (p := (isKind · cs)) found)
  · intro names
    have passed : isKind kind cs = true := isKind_iff.mpr names
    obtain ⟨first, found⟩ : ∃ first, order.find? (isKind · cs) = some first :=
      Option.isSome_iff_exists.mp (List.find?_isSome.mpr ⟨kind, all kind, passed⟩)
    have tested : isKind first cs = true := List.find?_some (p := (isKind · cs)) found
    rw [found, names.unique (isKind_iff.mp tested)]

theorem mem_order (kind : ColumnKind) :
    kind ∈ [ColumnKind.number, .string, .boolean, .dateTime, .object] := by
  cases kind <;> decide

theorem kindOf?_eq_some_iff : kindOf? cs = some kind ↔ Names kind cs := by
  rw [kindOf?_eq_find?, find?_isKind_eq_some_iff mem_order]

theorem kindOf?_eq_none_iff : kindOf? cs = none ↔ ∀ kind, ¬Names kind cs := by
  simp only [Option.eq_none_iff_forall_ne_some, ne_eq, kindOf?_eq_some_iff]

variable {s t : String}

theorem kind_eq_ok_iff : SqlType.kind s = .ok kind ↔ Names kind (normalized s) := by
  rw [← kindOf?_eq_some_iff, SqlType.kind]
  cases kindOf? (normalized s) <;> simp

theorem kind_eq_error_iff :
    SqlType.kind s = .error (.unknownColumnType s none) ↔ ∀ kind, ¬Names kind (normalized s) := by
  rw [← kindOf?_eq_none_iff, SqlType.kind]
  cases kindOf? (normalized s) <;> simp

/-- Blanks around a type and the case of its letters are lost. -/
theorem normalized_eq {before after : List Char} (front : ∀ c ∈ before, Text.isBlank c = true)
    (back : ∀ c ∈ after, Text.isBlank c = true)
    (same : cs.map Char.toLower = s.toList.map Char.toLower)
    (around : t.toList = before ++ cs ++ after) : normalized t = normalized s := by
  have letters := Text.sameLetters_stripBy Text.ignoresCase_isBlank (Text.sameLetters_iff.mpr same)
  rw [normalized, normalized, around, Text.stripBy_append front back]
  exact Text.lowerFrom_eq .nil letters

/-- The names of the kinds are apart, so the order of their tests does not matter: a type
is of the kind that it names in its normal form, and a type that names none is refused
as it was given.  Blanks around it and the case of its letters do not count. -/
theorem kind_follows_names :
    (∀ cs kind other, Names kind cs → Names other cs → kind = other) ∧
    (∀ order : List ColumnKind, (∀ kind, kind ∈ order) →
      ∀ cs, order.find? (isKind · cs) = kindOf? cs) ∧
    (∀ s : String, (∀ kind, SqlType.kind s = .ok kind ↔ Names kind (normalized s)) ∧
      (SqlType.kind s = .error (.unknownColumnType s none) ↔
        ∀ kind, ¬Names kind (normalized s)) ∧
      ∀ failure, SqlType.kind s = .error failure → failure = .unknownColumnType s none) ∧
    ∀ (s t : String) (before cs after : List Char), (∀ c ∈ before, Text.isBlank c = true) →
      (∀ c ∈ after, Text.isBlank c = true) → cs.map Char.toLower = s.toList.map Char.toLower →
      t.toList = before ++ cs ++ after →
      (SqlType.kind t).toOption = (SqlType.kind s).toOption := by
  refine ⟨fun cs kind other => Names.unique, ?_, ?_, ?_⟩
  · intro order all cs
    ext kind
    rw [find?_isKind_eq_some_iff all, kindOf?_eq_some_iff]
  · refine fun s => ⟨fun kind => kind_eq_ok_iff, kind_eq_error_iff, ?_⟩
    intro failure refused
    rw [SqlType.kind] at refused
    split at refused <;> cases refused
    rfl
  · intro s t before cs after front back same around
    rw [SqlType.kind, SqlType.kind, normalized_eq front back same around]
    cases kindOf? (normalized s) <;> rfl

/-- A time in letters of both cases between blanks is of the kind that the plain time is. -/
theorem kind_follows_names_zoned :
    SqlType.kind "timestamp(3) with time zone" = .ok .dateTime ∧
    (SqlType.kind "\tTimeStamp(3) WITH time Zone\n").toOption = some .dateTime := by
  obtain ⟨-, -, named, unchanged⟩ := kind_follows_names
  have normal : normalized "timestamp(3) with time zone" =
      "timestamp".toList ++ ('(' :: (['3'] ++ [')']) ++ " with time zone".toList) := by
    decide +kernel
  have zoned : SqlType.kind "timestamp(3) with time zone" = .ok .dateTime := by
    rw [(named _).1, normal]
    exact .zoned (.digits (by decide) (List.forall_mem_singleton.mpr (by decide))) (by decide)
  refine ⟨zoned, ?_⟩
  rw [unchanged "timestamp(3) with time zone" _ ['\t'] "TimeStamp(3) WITH time Zone".toList ['\n']
    (List.forall_mem_singleton.mpr (by decide)) (List.forall_mem_singleton.mpr (by decide))
    (by decide) (by decide), zoned]
  rfl

end ApiContract.SqlType
