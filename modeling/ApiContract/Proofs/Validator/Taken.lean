import ApiContract.Proofs.Attempt
import ApiContract.Proofs.Validator.Report

/-!
# What validators take

The data of an accepted dictionary are those of its values for which there is a
field, in the order of the fields.  Below a model this holds again; lists, other
dictionaries and what is given for a union are taken as they are, and a scalar
becomes a number, a boolean or a text, or stays null where null is taken.
-/

namespace ApiContract

/-- What the data of an accepted dictionary carry for a value that is given for a field. -/
inductive Carries (numbers : NumberKind) : Slot Node → Value → Value → Prop
  /-- The data of a model are the values that are given for its properties, in their
  order. -/
  | record {slot : Slot Node} {entries : List (Value × Value)} {data : Entries String Value}
      (isModel : slot.content.IsModel)
      (keys : data.keys = slot.content.properties.keys.filter fun name =>
        (Value.lookup? entries name).isSome)
      (values : ∀ name inner v w, Entries.get? slot.content.properties name = some inner →
        Value.lookup? entries name = some v → Entries.get? data name = some w →
          Carries numbers inner v w) :
      Carries numbers slot (.dict entries) (.record data)
  | list {slot : Slot Node} {items : List Value} (takes : slot.content.TakesList) :
      Carries numbers slot (.list items) (.list items)
  | dictionary {slot : Slot Node} {entries : List (Value × Value)}
      (takes : slot.content.TakesDictionary) : Carries numbers slot (.dict entries) (.dict entries)
  | anything {slot : Slot Node} {v : Value} (shape : slot.content.shape = .union) :
      Carries numbers slot v v
  | null {slot : Slot Node} (takes : TakesNull slot) : Carries numbers slot .null .null
  | integer {slot : Slot Node} {v : Value} {n : Int} (shape : slot.content.shape = .scalar)
      (type : slot.content.facets.type = .named "number") (whole : numbers = .integer)
      (coerced : v.toInteger = .ok n) : Carries numbers slot v (.int n)
  | double {slot : Slot Node} {v : Value} {x : Binary64} (shape : slot.content.shape = .scalar)
      (type : slot.content.facets.type = .named "number") (doubles : numbers = .double)
      (coerced : v.toDouble = .ok x) : Carries numbers slot v (.float x)
  | boolean {slot : Slot Node} {v : Value} {b : Bool} (shape : slot.content.shape = .scalar)
      (type : slot.content.facets.type = .named "boolean") (coerced : v.toBoolean = .ok b) :
      Carries numbers slot v (.bool b)
  | text {slot : Slot Node} {v : Value} (shape : slot.content.shape = .scalar)
      (noNumber : slot.content.facets.type ≠ .named "number")
      (noBoolean : slot.content.facets.type ≠ .named "boolean") (string : v.isString = true) :
      Carries numbers slot v v

/-- Null is carried for unions, and for numbers and booleans that are not required, only. -/
theorem Carries.of_null {numbers : NumberKind} {slot : Slot Node} {v : Value}
    (carries : Carries numbers slot v .null) :
    slot.content.shape = .union ∨ TakesNull slot := by
  cases carries with
  | anything shape => exact Or.inl shape
  | null takes => exact Or.inr takes
  | text _ _ _ string => simp [Value.isString] at string

/-! ### Scalars -/

/-- Only texts are taken for texts, as they are. -/
theorem Value.toText_eq_ok {v w : Value} (plain : v.Plain) (taken : v.toText = .ok w) :
    w = v ∧ v.isString = true := by
  cases v with
  | str s => exact ⟨by simpa [toText, text?] using taken.symm, rfl⟩
  | unpaired codes => exact ⟨by simpa [toText] using taken.symm, rfl⟩
  | tag t => exact absurd (plain _ (.here _)) id
  | _ => simp [toText, text?] at taken

/-- A scalar carries what a plain value is coerced to. -/
theorem carries_of_coerce {numbers : NumberKind} {slot : Slot Node} {v w : Value}
    (shape : slot.content.shape = .scalar) (plain : v.Plain)
    (coerced : (ScalarKind.of slot.content.facets.type).coerce numbers v = .ok w) :
    Carries numbers slot v w := by
  by_cases number : slot.content.facets.type = .named "number"
  · simp only [ScalarKind.of, number, if_true, ScalarKind.coerce] at coerced
    cases numbers with
    | integer =>
        obtain ⟨n, whole, rfl⟩ := Attempt.map_eq_ok_iff.mp coerced
        exact .integer shape number rfl whole
    | double =>
        obtain ⟨x, double, rfl⟩ := Attempt.map_eq_ok_iff.mp coerced
        exact .double shape number rfl double
  · by_cases boolean : slot.content.facets.type = .named "boolean"
    · rw [boolean] at coerced
      obtain ⟨b, flag, rfl⟩ := Attempt.map_eq_ok_iff.mp coerced
      exact .boolean shape boolean flag
    · simp only [ScalarKind.of, number, boolean, if_false, ScalarKind.coerce] at coerced
      obtain ⟨rfl, string⟩ := Value.toText_eq_ok plain coerced
      exact .text shape number boolean string

/-- A scalar carries what is taken for it. -/
theorem carries_of_scalar {numbers : NumberKind} {slot : Slot Node} {v w : Value}
    (shape : slot.content.shape = .scalar) (plain : v.Plain)
    (taken : (ScalarKind.of slot.content.facets.type).take numbers slot.required v = .ok w) :
    Carries numbers slot v w := by
  rw [ScalarKind.take] at taken
  split at taken
  · rename_i null
    rw [Bool.and_eq_true, beq_iff_eq, ← takesNull_iff shape] at null
    rcases null with ⟨takesNull, rfl⟩
    cases taken
    exact .null takesNull
  · cases coerced : (ScalarKind.of slot.content.facets.type).coerce numbers v with
    | error fault => simp [coerced] at taken
    | ok x =>
        obtain rfl : x = w := by simpa [coerced] using taken
        exact carries_of_coerce shape plain coerced

/-! ### Trees of fields -/

/-- A value that is refused is refused for some problem. -/
theorem ne_nil_of_take {numbers : NumberKind} {model : String} {required : Bool} {v : Value}
    {n : Node} {problems : List DataProblem}
    (refused : n.take numbers model required v = .error problems) : problems ≠ [] := by
  rintro rfl
  rcases n.shape_cases with isModel | takes | takes | shape | shape
  · rw [Node.take_of_isModel isModel] at refused
    cases v with
    | dict entries =>
        obtain ⟨nonempty, none⟩ := Taken.toExcept_eq_error_iff.mp refused
        exact nonempty none
    | _ => simp at refused
  · rw [Node.take_of_takesList takes, Value.toList] at refused
    split at refused <;> simp at refused
  · rw [Node.take_of_takesDictionary takes] at refused
    cases v with
    | dict entries =>
        simp only [Value.toDictionary] at refused
        split at refused
        · simp at refused
        · rename_i nonempty
          exact nonempty (List.isEmpty_iff.mpr (Except.error.inj refused))
    | _ => simp [Value.toDictionary] at refused
  · simp [Node.take_of_union shape] at refused
  · rw [Node.take_of_scalar shape, ScalarKind.take] at refused
    split at refused
    · simp at refused
    · split at refused <;> simp at refused

/-- The data of fields without problems are the values that are given for them, in their
order, each as it is taken. -/
theorem data_takeFields {numbers : NumberKind} {model : String} {entries : List (Value × Value)}
    {fields : Entries String (Slot Node)}
    (free : (Node.takeFields numbers model entries fields).problems = []) :
    (Node.takeFields numbers model entries fields).data.keys =
        fields.keys.filter (fun name => (Value.lookup? entries name).isSome) ∧
      ∀ name w, (Node.takeFields numbers model entries fields).data.get? name = some w →
        ∃ slot v, fields.get? name = some slot ∧ Value.lookup? entries name = some v ∧
          slot.content.take numbers (model ++ "_" ++ name) slot.required v = .ok w := by
  induction fields with
  | nil => simp [Node.takeFields]
  | cons field rest ih =>
      rcases field with ⟨field, required, n⟩
      rw [Node.takeFields] at free ⊢
      cases found : Value.lookup? entries field with
      | none =>
          cases required with
          | true => simp [found, Taken.cons] at free
          | false =>
              simp only [found, Bool.false_eq_true, if_false, Taken.cons] at free ⊢
              obtain ⟨keys, values⟩ := ih free
              constructor
              · simp [keys, found]
              · intro name w held
                obtain ⟨slot, v, declared, present, taken⟩ := values name w held
                have other : field ≠ name := by
                  rintro rfl
                  simp [found] at present
                have found : Entries.get? ((field, ⟨false, n⟩) :: rest) name = some slot := by
                  simpa [Entries.get?_cons, other] using declared
                exact ⟨slot, v, found, present, taken⟩
      | some v =>
          cases taken : n.take numbers (model ++ "_" ++ field) required v with
          | error problems =>
              simp [found, Taken.cons, taken, ne_nil_of_take taken] at free
          | ok w =>
              simp only [found, Taken.cons, taken] at free ⊢
              obtain ⟨keys, values⟩ := ih free
              constructor
              · simp [keys, found]
              · intro name x held
                rw [Entries.get?_cons] at held ⊢
                by_cases same : field = name
                · subst same
                  obtain rfl : w = x := by simpa using held
                  exact ⟨⟨required, n⟩, v, by simp, found, taken⟩
                · simp only [same, beq_iff_eq, if_false] at held ⊢
                  exact values name x held

/-- What is taken for a plain value carries it. -/
theorem carries_of_take (numbers : NumberKind) (n : Node) (model : String) (required : Bool)
    {v w : Value} (plain : v.Plain) (taken : n.take numbers model required v = .ok w) :
    Carries numbers ⟨required, n⟩ v w := by
  induction n generalizing model required v w with
  | mk facets properties ih =>
      rcases (Node.mk facets properties).shape_cases with isModel | takes | takes | shape | shape
      · rw [Node.take_of_isModel isModel] at taken
        cases v with
        | dict entries =>
            obtain ⟨free, rfl⟩ := Taken.toExcept_eq_ok_iff.mp taken
            obtain ⟨keys, values⟩ := data_takeFields free
            apply Carries.record isModel keys
            intro name inner v w declared present held
            obtain ⟨slot, x, sameSlot, sameValue, taken⟩ := values name w held
            obtain rfl : inner = slot := by simpa [declared] using sameSlot
            obtain rfl : v = x := by simpa [present] using sameValue
            obtain ⟨k, member⟩ := Value.exists_mem_of_lookup? present
            exact ih name inner (Entries.mem_of_get? declared) _ _ (plain.entry member) taken
        | _ => simp at taken
      · rw [Node.take_of_takesList takes] at taken
        cases v with
        | list items =>
            rw [plain.toList] at taken
            cases taken
            exact .list takes
        | component name => exact absurd (plain _ (.here _)) id
        | _ => simp [Value.toList, Value.listed?] at taken
      · rw [Node.take_of_takesDictionary takes] at taken
        cases v with
        | dict entries =>
            rw [plain.toDictionary] at taken
            cases taken
            exact .dictionary takes
        | _ => simp [Value.toDictionary] at taken
      · rw [Node.take_of_union shape, plain.handedOut] at taken
        cases taken
        exact .anything shape
      · rw [Node.take_of_scalar shape] at taken
        exact carries_of_scalar shape plain taken

namespace Validator

/-- The data of an accepted dictionary have exactly those of its keys for which a field is
declared, in the order of the fields, each name at its first place.  What they hold under
a name carries the value that is given for the field that is declared last under it, and
null stands only where it is given for a union, or for a number or a boolean that is not
required. -/
theorem data_of_success {declared : Entries String (Slot Node)} {numbers : NumberKind}
    {v : Validator} (compiled : CompiledFrom declared numbers v)
    {entries : List (Value × Value)} (plain : (Value.dict entries).Plain) {report : Validation}
    (validated : v.validate (.dict entries) = .ok report) (accepted : report.success = true) :
    report.data.keys = (Entries.keys declared).eraseDups.filter
        (fun name => (Value.lookup? entries name).isSome) ∧
      (∀ name w, report.data.get? name = some w →
        ∃ slot x, Entries.get? declared.reverse name = some slot ∧
          Value.lookup? entries name = some x ∧ Carries numbers slot x w) ∧
      ∀ slot x, Carries numbers slot x .null → slot.content.shape = .union ∨ TakesNull slot := by
  obtain rfl := compiled.numbers_eq
  obtain rfl : v.run entries = report := by
    simpa [validate, Value.toEntries, Except.map] using validated
  have free := (success_run_iff v entries).mp accepted
  have data : (v.run entries).data = (Node.takeFields v.numbers v.model entries v.fields).data := by
    simp [run, free]
  obtain ⟨keys, values⟩ := data_takeFields free
  rw [data]
  refine ⟨?_, ?_, ?_⟩
  · rw [keys, compiled.fields_eq, Entries.keys_ofList]
  · intro name w held
    obtain ⟨slot, x, declaredSlot, present, taken⟩ := values name w held
    obtain ⟨k, member⟩ := Value.exists_mem_of_lookup? present
    rw [compiled.fields_eq, Entries.get?_ofList] at declaredSlot
    exact ⟨slot, x, declaredSlot, present,
      carries_of_take v.numbers slot.content _ _ (plain.entry member) taken⟩
  · intro slot x carries
    exact carries.of_null

/-- An order with more in it than is asked for. -/
def acceptedData : List (Value × Value) :=
  [(.str "order", .dict [(.str "tags", .list [.null]), (.str "amount", .str "12")]),
    (.str "colour", .str "red"), (.str "number", .bool true)]

/-- What is asked for is taken, in order of declaration. -/
theorem data_of_success_order :
    CompiledFrom orderValidator.fields .integer orderValidator ∧
      (Value.dict acceptedData).Plain ∧
      orderValidator.validate (.dict acceptedData) =
        .ok ⟨true, [("number", .int 1),
          ("order", Value.record [("amount", .int 12), ("tags", .list [.null])])], []⟩ ∧
      Carries .integer orderNumber.slot (.bool true) (.int 1) := by
  have plain : (Value.dict acceptedData).Plain := by
    simp [Value.Plain, acceptedData, Value.contains_iff_of_leaf, Value.isString, or_imp,
      forall_and, Entries.keys, -Prod.forall]
  have validated : orderValidator.validate (.dict acceptedData) =
      .ok ⟨true, [("number", .int 1),
        ("order", Value.record [("amount", .int 12), ("tags", .list [.null])])], []⟩ := rfl
  refine ⟨compiledFrom_orderValidator, plain, validated, ?_⟩
  obtain ⟨-, values, -⟩ := data_of_success compiledFrom_orderValidator plain validated rfl
  obtain ⟨slot, x, declared, present, carries⟩ := values "number" (.int 1) rfl
  cases declared
  cases present
  exact carries

end Validator

end ApiContract
