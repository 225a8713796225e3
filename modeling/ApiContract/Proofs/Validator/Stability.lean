import ApiContract.Proofs.Validator.Taken
import ApiContract.Proofs.Value.TextKeys

/-!
# Data that are validated again

What is taken for a value is taken as it is when it is given again.  A scalar is
a number, a boolean or a text after it was coerced; what is taken as it is was
changed at most once; and the data of a model hold the values that were taken
under the names by which they are looked up, and nothing under the names of
fields that were left out.  So a validator accepts the data that it hands out,
and hands out the same.
-/

namespace ApiContract

variable {numbers : NumberKind} {model : String} {required : Bool} {v w : Value}

/-! ### Scalars -/

/-- A value to which something is coerced is coerced to itself. -/
theorem ScalarKind.coerce_of_coerce {kind : ScalarKind} (coerced : kind.coerce numbers v = .ok w) :
    kind.coerce numbers w = .ok w := by
  cases kind with
  | number =>
      cases numbers with
      | integer =>
          obtain ⟨n, -, rfl⟩ := Attempt.map_eq_ok_iff.mp coerced
          rfl
      | double =>
          obtain ⟨x, -, rfl⟩ := Attempt.map_eq_ok_iff.mp coerced
          rfl
  | boolean =>
      obtain ⟨b, -, rfl⟩ := Attempt.map_eq_ok_iff.mp coerced
      rfl
  | text => exact Value.toText_of_isString (Value.isString_of_toText coerced)

/-- Null is taken again wherever it was taken, and everything else that was taken was coerced. -/
theorem ScalarKind.take_of_take {kind : ScalarKind}
    (taken : kind.take numbers required v = .ok w) : kind.take numbers required w = .ok w := by
  rw [take] at taken
  split at taken
  · rename_i null
    cases taken
    rw [Bool.and_eq_true] at null
    simp [take, null.1]
  · cases coerced : kind.coerce numbers v with
    | error fault => simp [coerced] at taken
    | ok x =>
        obtain rfl : x = w := by simpa [coerced] using taken
        rw [take, coerce_of_coerce coerced]
        split
        · rename_i null
          rw [Bool.and_eq_true, beq_iff_eq] at null
          rw [null.2]
        · rfl

/-! ### Trees of fields -/

namespace Node

/-- Fields without problems are checked again with the same result against the data that they
give, if what is taken for the value of each of them is taken again. -/
theorem takeFields_data {entries : List (Value × Value)} {fields : Entries String (Slot Node)}
    (names : fields.keys.Nodup)
    (values : ∀ name slot, (name, slot) ∈ fields → ∀ v w,
      slot.content.take numbers (model ++ "_" ++ name) slot.required v = .ok w →
        slot.content.take numbers (model ++ "_" ++ name) slot.required w = .ok w)
    (free : (takeFields numbers model entries fields).problems = []) :
    takeFields numbers model
        ((takeFields numbers model entries fields).data.map fun e => (.str e.1, e.2)) fields =
      takeFields numbers model entries fields := by
  obtain ⟨keys, held⟩ := data_takeFields free
  apply takeFields_congr
  intro name slot declared
  rw [takeField, takeField, Value.lookup?_record]
  cases carried : (takeFields numbers model entries fields).data.get? name with
  | none =>
      have absent : Value.lookup? entries name = none := by
        have noKey : name ∉ (takeFields numbers model entries fields).data.keys := by
          simp [← Entries.isSome_get?_iff, carried]
        have listed : name ∈ fields.keys := List.mem_map_of_mem declared
        simpa [keys, listed] using noKey
      rw [absent]
  | some w =>
      obtain ⟨other, v, found, present, taken⟩ := held name w carried
      obtain rfl := Entries.eq_of_mem names declared (Entries.mem_of_get? found)
      simp only [present, taken, values name slot declared v w taken]

/-- What is taken for a value is taken as it is when it is given again. -/
theorem take_of_take {n : Node} (distinct : n.Distinct)
    (taken : n.take numbers model required v = .ok w) :
    n.take numbers model required w = .ok w := by
  induction n generalizing model required v w with
  | mk facets properties ih =>
      rcases (Node.mk facets properties).shape_cases with isModel | takes | takes | shape | shape
      · rw [take_of_isModel isModel] at taken
        cases v with
        | dict entries =>
            obtain ⟨free, rfl⟩ := Taken.toExcept_eq_ok_iff.mp taken
            have again := takeFields_data distinct.names
              (fun name slot declared _ _ => ih name slot declared (distinct.property declared))
              free
            rw [take_of_isModel isModel, Value.record]
            simp only [again, Taken.toExcept_eq_ok_iff]
            exact ⟨free, rfl⟩
        | _ => simp at taken
      · rw [take_of_takesList takes] at taken ⊢
        exact Value.toList_of_toList taken
      · rw [take_of_takesDictionary takes] at taken ⊢
        exact Value.toDictionary_of_toDictionary taken
      · rw [take_of_union shape] at taken ⊢
        cases taken
        rw [Value.handedOut_handedOut]
      · rw [take_of_scalar shape] at taken ⊢
        exact ScalarKind.take_of_take taken

end Node

namespace Validator

/-- Validating the data that an accepted input gives succeeds, and gives the same data. -/
theorem validate_data {declared : Entries String (Slot Node)} {v : Validator}
    (compiled : CompiledFrom declared numbers v) {input : Value} {report : Validation}
    (validated : v.validate input = .ok report) (accepted : report.success = true) :
    v.validate (Value.record report.data) = .ok report := by
  rw [validate, Attempt.map_eq_ok_iff] at validated
  obtain ⟨entries, -, rfl⟩ := validated
  have free := (success_run_iff v entries).mp accepted
  have names : v.fields.keys.Nodup := by
    rw [compiled.fields_eq]
    exact Entries.nodup_keys_ofList declared
  have again := Node.takeFields_data names
    (fun name slot member _ _ => Node.take_of_take (compiled.distinct member)) free
  have data : (v.run entries).data = (Node.takeFields v.numbers v.model entries v.fields).data := by
    simp [run, free]
  rw [validate, Value.record, Value.toEntries, data]
  simp only [Except.map, run, again]

/-- The data of an order, of which the amount was given as a text, are accepted as they are. -/
theorem validate_data_order :
    ∃ report, orderValidator.validate (.dict acceptedData) = .ok report ∧
      report.success = true ∧
      report.data = [("number", .int 1),
        ("order", Value.record [("amount", .int 12), ("tags", .list [.null])])] ∧
      orderValidator.validate (Value.record report.data) = .ok report := by
  have validated : orderValidator.validate (.dict acceptedData) =
      .ok ⟨true, [("number", .int 1),
        ("order", Value.record [("amount", .int 12), ("tags", .list [.null])])], []⟩ := rfl
  exact ⟨_, validated, rfl, rfl, validate_data compiledFrom_orderValidator validated rfl⟩

end Validator

end ApiContract
