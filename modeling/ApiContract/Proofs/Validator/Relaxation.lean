import ApiContract.Proofs.Validator.Taken

/-!
# Fields that need not be given any more

Fields are relaxed if some of them, at any depth, had to be given and need not be
given any more.  What was accepted before is accepted with the same data.  What
is accepted only since has a gap: it lacks a relaxed field, or holds null for a
relaxed number or boolean.  A relaxed text, list or dictionary that is given has
to be one as before.
-/

namespace ApiContract

/-- Some fields are relaxed to others: the others say the same, at every depth, except that a
field that had to be given may be one that need not. -/
inductive Relaxed : Entries String (Slot Node) → Entries String (Slot Node) → Prop
  | nil : Relaxed [] []
  | cons {name : String} {slot relaxed : Slot Node} {rest others : Entries String (Slot Node)}
      (facets : relaxed.content.facets = slot.content.facets)
      (required : relaxed.required = true → slot.required = true)
      (properties : Relaxed slot.content.properties relaxed.content.properties)
      (later : Relaxed rest others) : Relaxed ((name, slot) :: rest) ((name, relaxed) :: others)

/-- The entries of a dictionary have a gap where fields were relaxed: in it, or in a dictionary
that it holds for a model, a relaxed field is missing, or null is held for a relaxed number or
boolean. -/
inductive Gap : Entries String (Slot Node) → Entries String (Slot Node) → List (Value × Value) → Prop
  | absent {fields others : Entries String (Slot Node)} {entries : List (Value × Value)}
      {name : String} {slot relaxed : Slot Node} (declared : (name, slot) ∈ fields)
      (other : (name, relaxed) ∈ others) (required : slot.required = true)
      (optional : relaxed.required = false) (absent : Value.lookup? entries name = none) :
      Gap fields others entries
  | null {fields others : Entries String (Slot Node)} {entries : List (Value × Value)}
      {name : String} {slot relaxed : Slot Node} (declared : (name, slot) ∈ fields)
      (other : (name, relaxed) ∈ others) (required : slot.required = true)
      (optional : relaxed.required = false) (shape : slot.content.shape = .scalar)
      (type : slot.content.facets.type = .named "number" ∨
        slot.content.facets.type = .named "boolean")
      (present : Value.lookup? entries name = some .null) : Gap fields others entries
  | inside {fields others : Entries String (Slot Node)} {entries inner : List (Value × Value)}
      {name : String} {slot relaxed : Slot Node} (declared : (name, slot) ∈ fields)
      (other : (name, relaxed) ∈ others) (isModel : slot.content.IsModel)
      (present : Value.lookup? entries name = some (.dict inner))
      (further : Gap slot.content.properties relaxed.content.properties inner) :
      Gap fields others entries

variable {numbers : NumberKind} {model other : String} {entries : List (Value × Value)}

/-! ### Scalars -/

namespace ScalarKind

/-- Nothing is coerced to null. -/
theorem coerce_null_ne_ok (kind : ScalarKind) (w : Value) :
    kind.coerce numbers .null ≠ .ok w := by
  intro coerced
  cases kind with
  | number => cases numbers <;> cases coerced
  | boolean => cases coerced
  | text => cases coerced

/-- What is taken for a scalar that has to be given is taken for one that need not. -/
theorem take_of_take_required {kind : ScalarKind} {v w : Value}
    (taken : kind.take numbers true v = .ok w) (required : Bool) :
    kind.take numbers required v = .ok w := by
  rw [take] at taken ⊢
  split
  · rename_i null
    rw [Bool.and_eq_true, beq_iff_eq] at null
    cases coerced : kind.coerce numbers v with
    | error fault => simp [takesNull, coerced] at taken
    | ok x => exact absurd (null.2 ▸ coerced) (kind.coerce_null_ne_ok x)
  · simpa [takesNull] using taken

/-- Besides, only null is taken for a scalar that need not be given, and not for a text. -/
theorem take_required_of_take {kind : ScalarKind} {v w : Value}
    (taken : kind.take numbers false v = .ok w) :
    kind.take numbers true v = .ok w ∨ v = .null ∧ kind ≠ .text := by
  rw [take] at taken
  split at taken
  · rename_i null
    rw [Bool.and_eq_true, beq_iff_eq] at null
    exact Or.inr ⟨null.2, by simpa [takesNull] using null.1⟩
  · exact Or.inl (by simpa [take, takesNull] using taken)

/-- The types that name a number or a boolean name no text. -/
theorem of_ne_text_iff {type : TypeExpr} :
    ScalarKind.of type ≠ .text ↔ type = .named "number" ∨ type = .named "boolean" := by
  by_cases number : type = .named "number"
  · simp [ScalarKind.of, number]
  · by_cases boolean : type = .named "boolean" <;> simp [ScalarKind.of, number, boolean]

end ScalarKind

/-! ### Values of relaxed fields -/

namespace Relaxed

/-- Relaxed fields have the names of the fields. -/
theorem keys_eq {fields others : Entries String (Slot Node)} (relaxed : Relaxed fields others) :
    others.keys = fields.keys := by
  induction relaxed with
  | nil => rfl
  | cons _ _ _ _ _ ih => rw [Entries.keys_cons, Entries.keys_cons, ih]

/-- Relaxed fields are none only if there were none. -/
theorem eq_nil_iff {fields others : Entries String (Slot Node)} (relaxed : Relaxed fields others) :
    others = [] ↔ fields = [] := by
  cases relaxed <;> simp

section

variable {n m : Node} (facets : m.facets = n.facets) (properties : Relaxed n.properties m.properties)

include facets properties

theorem isModel (isModel : n.IsModel) : m.IsModel :=
  ⟨(congrArg Facets.shape facets).trans isModel.1, mt properties.eq_nil_iff.mp isModel.2⟩

omit properties in
theorem takesList (takes : n.TakesList) : m.TakesList := by
  simpa [Node.TakesList, Node.shape, facets] using takes

theorem takesDictionary (takes : n.TakesDictionary) : m.TakesDictionary := by
  simpa [Node.TakesDictionary, Node.shape, facets, properties.eq_nil_iff] using takes

/-- A value that is taken for a field is taken alike for the relaxed field, if this is so for the
fields of a model. -/
theorem take_eq {required optional : Bool} (implied : optional = true → required = true)
    (inside : ∀ entries, (Node.takeFields numbers model entries n.properties).problems = [] →
      Node.takeFields numbers other entries m.properties =
        Node.takeFields numbers model entries n.properties) {v w : Value}
    (taken : n.take numbers model required v = .ok w) :
    m.take numbers other optional v = .ok w := by
  rcases n.shape_cases with model | takes | takes | shape | shape
  · rw [Node.take_of_isModel model] at taken
    rw [Node.take_of_isModel (isModel facets properties model)]
    cases v with
    | dict entries =>
        have free := (Taken.toExcept_eq_ok_iff.mp taken).1
        simpa [inside entries free] using taken
    | _ => simp at taken
  · rw [Node.take_of_takesList takes] at taken
    rw [Node.take_of_takesList (takesList facets takes), taken]
  · rw [Node.take_of_takesDictionary takes] at taken
    rw [Node.take_of_takesDictionary (takesDictionary facets properties takes), taken]
  · rw [Node.take_of_union shape] at taken
    rw [Node.take_of_union ((congrArg Facets.shape facets).trans shape), taken]
  · rw [Node.take_of_scalar shape] at taken
    rw [Node.take_of_scalar ((congrArg Facets.shape facets).trans shape), facets]
    cases required with
    | true => exact ScalarKind.take_of_take_required taken optional
    | false =>
        obtain rfl : optional = false := by simpa using implied
        exact taken

/-- A value that is taken for a relaxed field is taken for the field before, unless it is null for
a relaxed number or boolean, or has a gap as the value of a model. -/
theorem exists_take_or_gap (model : String) {required optional : Bool}
    (inside : ∀ entries, (Node.takeFields numbers other entries m.properties).problems = [] →
      (Node.takeFields numbers model entries n.properties).problems = [] ∨
        Gap n.properties m.properties entries) {v w : Value}
    (implied : optional = true → required = true)
    (taken : m.take numbers other optional v = .ok w) :
    (∃ x, n.take numbers model required v = .ok x) ∨
      v = .null ∧ required = true ∧ optional = false ∧ n.shape = .scalar ∧
        (n.facets.type = .named "number" ∨ n.facets.type = .named "boolean") ∨
      n.IsModel ∧ ∃ inner, v = .dict inner ∧ Gap n.properties m.properties inner := by
  rcases n.shape_cases with model | takes | takes | shape | shape
  · rw [Node.take_of_isModel (isModel facets properties model)] at taken
    rw [Node.take_of_isModel model]
    cases v with
    | dict entries =>
        rcases inside entries (Taken.toExcept_eq_ok_iff.mp taken).1 with free | gap
        · exact Or.inl ⟨_, Taken.toExcept_eq_ok_iff.mpr ⟨free, rfl⟩⟩
        · exact Or.inr (Or.inr ⟨model, entries, rfl, gap⟩)
    | _ => simp at taken
  · rw [Node.take_of_takesList (takesList facets takes)] at taken
    exact Or.inl ⟨w, by rw [Node.take_of_takesList takes, taken]⟩
  · rw [Node.take_of_takesDictionary (takesDictionary facets properties takes)] at taken
    exact Or.inl ⟨w, by rw [Node.take_of_takesDictionary takes, taken]⟩
  · exact Or.inl ⟨_, Node.take_of_union shape⟩
  · rw [Node.take_of_scalar ((congrArg Facets.shape facets).trans shape), facets] at taken
    rw [Node.take_of_scalar shape]
    cases optional with
    | true => exact Or.inl ⟨w, implied rfl ▸ taken⟩
    | false =>
        cases required with
        | false => exact Or.inl ⟨w, taken⟩
        | true =>
            rcases ScalarKind.take_required_of_take taken with same | ⟨null, noText⟩
            · exact Or.inl ⟨w, same⟩
            · exact Or.inr (Or.inl ⟨null, rfl, rfl, shape, ScalarKind.of_ne_text_iff.mp noText⟩)

end

end Relaxed

/-! ### Trees of relaxed fields -/

/-- Fields have no problem exactly if the first of them is not missing and its value is taken, and
the others have none. -/
theorem problems_takeFields_cons_eq_nil_iff {name : String} {slot : Slot Node}
    {rest : Entries String (Slot Node)} :
    (Node.takeFields numbers model entries ((name, slot) :: rest)).problems = [] ↔
      (Value.lookup? entries name = none → slot.required = false) ∧
        (∀ v, Value.lookup? entries name = some v →
          ∃ w, slot.content.take numbers (model ++ "_" ++ name) slot.required v = .ok w) ∧
        (Node.takeFields numbers model entries rest).problems = [] := by
  rw [Node.takeFields_cons, Node.takeField]
  cases held : Value.lookup? entries name with
  | none => cases required : slot.required <;> simp [Taken.cons]
  | some v =>
      cases taken : slot.content.take numbers (model ++ "_" ++ name) slot.required v with
      | ok w => simp [Taken.cons, taken]
      | error problems => simp [Taken.cons, taken, ne_nil_of_take taken]

/-- A gap of some fields is one of more fields. -/
theorem Gap.mono {fields others more further : Entries String (Slot Node)}
    (gap : Gap fields others entries) (left : fields ⊆ more) (right : others ⊆ further) :
    Gap more further entries := by
  cases gap with
  | absent declared other required optional absent =>
      exact .absent (left declared) (right other) required optional absent
  | null declared other required optional shape type present =>
      exact .null (left declared) (right other) required optional shape type present
  | inside declared other isModel present further =>
      exact .inside (left declared) (right other) isModel present further

namespace Relaxed

variable {fields others : Entries String (Slot Node)}

/-- Where fields have no problem, the relaxed fields give the same. -/
theorem takeFields_eq (relaxed : Relaxed fields others)
    (free : (Node.takeFields numbers model entries fields).problems = []) :
    Node.takeFields numbers other entries others = Node.takeFields numbers model entries fields := by
  -- One hypothesis speaks of the properties of the first field, the other of the fields after it.
  induction relaxed generalizing model other entries with
  | nil => rfl
  | @cons name slot relaxed rest others facets required properties later inside ih =>
      obtain ⟨given, values, restFree⟩ := problems_takeFields_cons_eq_nil_iff.mp free
      rw [Node.takeFields_cons, Node.takeFields_cons, ih restFree, Node.takeField, Node.takeField]
      cases held : Value.lookup? entries name with
      | none =>
          have optional : relaxed.required = false :=
            Bool.eq_false_iff.mpr (mt required (by simp [given held]))
          simp [given held, optional]
      | some v =>
          obtain ⟨w, taken⟩ := values v held
          have alike : relaxed.content.take numbers (other ++ "_" ++ name) relaxed.required v =
              .ok w := take_eq facets properties required (fun _ => inside) taken
          simp only [taken, alike]

/-- Where relaxed fields have no problem, the fields have none unless there is a gap. -/
theorem problems_eq_nil_or_gap (relaxed : Relaxed fields others)
    (free : (Node.takeFields numbers other entries others).problems = []) :
    (Node.takeFields numbers model entries fields).problems = [] ∨ Gap fields others entries := by
  induction relaxed generalizing model other entries with
  | nil => exact Or.inl rfl
  | @cons name slot relaxed rest others facets required properties later inside ih =>
      obtain ⟨given, values, restFree⟩ := problems_takeFields_cons_eq_nil_iff.mp free
      rcases ih restFree with restFree | gap
      · rw [problems_takeFields_cons_eq_nil_iff, and_iff_left restFree]
        cases held : Value.lookup? entries name with
        | none =>
            cases demanded : slot.required with
            | false => exact Or.inl (by simp)
            | true =>
                exact Or.inr (.absent List.mem_cons_self List.mem_cons_self demanded (given held)
                  held)
        | some v =>
            obtain ⟨w, taken⟩ := values v held
            rcases exists_take_or_gap facets properties (model ++ "_" ++ name) (fun _ => inside)
                required taken with
              same | ⟨rfl, demanded, optional, shape, type⟩ | ⟨isModel, inner, rfl, gap⟩
            · exact Or.inl (by simpa using same)
            · exact Or.inr (.null List.mem_cons_self List.mem_cons_self demanded optional shape
                type held)
            · exact Or.inr (.inside List.mem_cons_self List.mem_cons_self isModel held gap)
      · exact Or.inr (gap.mono (List.subset_cons_self _ _) (List.subset_cons_self _ _))

end Relaxed

/-- Nothing is taken for null where a scalar has to be given. -/
theorem not_take_null {n : Node} (shape : n.shape = .scalar) (w : Value) :
    n.take numbers model true .null ≠ .ok w := by
  intro taken
  rw [Node.take_of_scalar shape, ScalarKind.take] at taken
  cases coerced : (ScalarKind.of n.facets.type).coerce numbers .null with
  | ok x => exact ScalarKind.coerce_null_ne_ok _ x coerced
  | error fault => simp [ScalarKind.takesNull, coerced] at taken

/-- A field without problems takes the value that is held for it. -/
theorem exists_take_of_fieldProblems {name : String} {slot : Slot Node} {v : Value}
    (free : fieldProblems numbers model entries (name, slot) = [])
    (present : Value.lookup? entries name = some v) :
    ∃ w, slot.content.take numbers (model ++ "_" ++ name) slot.required v = .ok w := by
  cases taken : slot.content.take numbers (model ++ "_" ++ name) slot.required v with
  | ok w => exact ⟨w, rfl⟩
  | error problems =>
      have none : problems = [] := by simpa [fieldProblems, present, taken] using free
      exact absurd none (ne_nil_of_take taken)

/-- Fields have a problem wherever there is a gap. -/
theorem Gap.problems_ne_nil {fields others : Entries String (Slot Node)}
    (gap : Gap fields others entries) :
    (Node.takeFields numbers model entries fields).problems ≠ [] := by
  rw [problems_takeFields, Ne, List.flatMap_eq_nil_iff]
  intro free
  induction gap generalizing model with
  | absent declared _ required _ absent =>
      have none := free _ declared
      simp [fieldProblems, absent, required] at none
  | null declared _ required _ shape _ present =>
      obtain ⟨w, taken⟩ := exists_take_of_fieldProblems (free _ declared) present
      exact not_take_null shape w (required ▸ taken)
  | inside declared _ isModel present _ ih =>
      obtain ⟨w, taken⟩ := exists_take_of_fieldProblems (free _ declared) present
      rw [Node.take_of_isModel isModel, Taken.toExcept_eq_ok_iff, problems_takeFields,
        List.flatMap_eq_nil_iff] at taken
      exact ih taken.1

/-! ### Compiled validators -/

namespace Relaxed

variable {fields others : Entries String (Slot Node)}

/-- Storing a field and a relaxed one under the same name keeps fields relaxed. -/
theorem put (relaxed : Relaxed fields others) (name : String) {slot optional : Slot Node}
    (facets : optional.content.facets = slot.content.facets)
    (required : optional.required = true → slot.required = true)
    (properties : Relaxed slot.content.properties optional.content.properties) :
    Relaxed (Entries.put fields name slot) (Entries.put others name optional) := by
  induction relaxed with
  | nil => exact .cons facets required properties .nil
  | @cons other _ _ _ _ facetsHere requiredHere propertiesHere later _ ih =>
      rw [Entries.put_cons, Entries.put_cons]
      split
      · exact .cons facets required properties later
      · exact .cons facetsHere requiredHere propertiesHere ih

/-- Fields that are stored one after the other are relaxed if each of them is. -/
theorem ofList (relaxed : Relaxed fields others) :
    Relaxed (Entries.ofList fields) (Entries.ofList others) := by
  suffices stored : ∀ before after, Relaxed before after →
      Relaxed (Entries.putAll before fields) (Entries.putAll after others) from
    stored [] [] .nil
  induction relaxed with
  | nil => exact fun _ _ earlier => earlier
  | @cons name _ _ _ _ facets required properties _ _ ih =>
      intro before after earlier
      exact ih _ _ (earlier.put name facets required properties)

/-- No name stands for two properties of one node in relaxed fields if none did before. -/
theorem distinct (relaxed : Relaxed fields others) (before : ∀ p ∈ fields, p.2.content.Distinct) :
    ∀ p ∈ others, p.2.content.Distinct := by
  induction relaxed with
  | nil => simp
  | @cons name slot optional rest others _ _ properties _ inside ih =>
      have here := before _ List.mem_cons_self
      rw [← Node.mk_facets_properties slot.content, Node.distinct_mk_iff] at here
      rintro p (_ | ⟨_, listed⟩)
      · rw [← Node.mk_facets_properties optional.content, Node.distinct_mk_iff, properties.keys_eq]
        exact ⟨here.1, inside here.2⟩
      · exact ih (fun p listed => before p (List.mem_cons_of_mem _ listed)) p listed

/-- The null character stands in the name of a relaxed object only if it stood there before. -/
theorem nullInNames_eq (relaxed : Relaxed fields others) :
    Node.nullInNames others = Node.nullInNames fields := by
  induction relaxed with
  | nil => rfl
  | @cons name slot optional rest others facets _ properties _ inside ih =>
      have none : optional.content.properties.isEmpty = slot.content.properties.isEmpty := by
        rw [Bool.eq_iff_iff, List.isEmpty_iff, List.isEmpty_iff, properties.eq_nil_iff]
      rcases slot with ⟨demanded, ⟨_, _⟩⟩
      rcases optional with ⟨demandedStill, ⟨_, _⟩⟩
      cases facets
      simp only [Node.properties] at none inside
      simp only [Node.nullInNames, Node.nullInName, none, inside, ih]

/-- Fields that are relaxed from fields in two parts are in two parts. -/
theorem append {first second : Entries String (Slot Node)}
    (relaxed : Relaxed (first ++ second) others) :
    ∃ before after, others = before ++ after ∧ Relaxed first before ∧ Relaxed second after := by
  induction first generalizing others with
  | nil => exact ⟨[], others, rfl, .nil, relaxed⟩
  | cons _ _ ih =>
      cases relaxed with
      | cons facets required properties later =>
          obtain ⟨before, after, rfl, first, second⟩ := ih later
          exact ⟨_ :: before, after, rfl, .cons facets required properties first, second⟩

end Relaxed

namespace Validator

variable {declared declared' : Entries String (Slot Node)} {v v' : Validator}

/-- Where there is a field there is a validator of parameters. -/
theorem exists_compiledFrom_parameters {first second : Entries String (Slot Node)}
    (firstDistinct : ∀ p ∈ first, p.2.content.Distinct) (body : Option Node)
    (bodyDistinct : ∀ n, body = some n → n.Distinct)
    (properties : (body.map Node.properties).getD [] = second) (some : first ++ second ≠ []) :
    ∃ v, CompiledFrom (first ++ second) .integer v := by
  let parameters := first.map fun p => (⟨p.1, "query", p.2.required, p.2.content⟩ : Parameter)
  have slots : parameters.map (fun p => (p.name, p.slot)) = first := by
    simp [parameters, Parameter.slot, Function.comp_def]
  have table : table parameters body ≠ [] := by
    rwa [table_eq_ofList, slots, properties, Ne, Entries.ofList_eq_nil_iff]
  have parametersDistinct : ∀ p ∈ parameters, p.node.Distinct := by
    rintro p listed
    obtain ⟨field, member, rfl⟩ := List.mem_map.mp listed
    exact firstDistinct field member
  have compiled := CompiledFrom.request parametersDistinct bodyDistinct
    (request?_eq_some_iff.mpr ⟨table, rfl⟩)
  rw [slots, properties] at compiled
  exact ⟨_, compiled⟩

/-- Where there is a validator there is one of the relaxed fields. -/
theorem CompiledFrom.exists_relaxed (compiled : CompiledFrom declared numbers v)
    (relaxed : Relaxed declared declared') : ∃ v', CompiledFrom declared' numbers v' := by
  cases compiled with
  | @request parameters body _ parametersDistinct bodyDistinct compiled =>
      obtain ⟨nonempty, -⟩ := request?_eq_some_iff.mp compiled
      rw [table_eq_ofList, Ne, Entries.ofList_eq_nil_iff, ← relaxed.eq_nil_iff] at nonempty
      obtain ⟨before, after, rfl, first, second⟩ := relaxed.append
      refine exists_compiledFrom_parameters (first.distinct ?_)
        (body.map fun n => .mk n.facets after) ?_ ?_ nonempty
      · intro p listed
        obtain ⟨parameter, member, rfl⟩ := List.mem_map.mp listed
        exact parametersDistinct parameter member
      · intro n isBody
        obtain ⟨m, rfl, rfl⟩ := Option.map_eq_some_iff.mp isBody
        have distinct := bodyDistinct m rfl
        rw [Node.distinct_mk_iff, second.keys_eq]
        exact ⟨distinct.names, second.distinct fun _ member => distinct.property member⟩
      · cases body with
        | none => exact (second.eq_nil_iff.mpr rfl).symm
        | some n => rfl
  | @response n _ distinct compiled =>
      obtain ⟨nonempty, -⟩ := response?_eq_some_iff.mp compiled
      have relaxedDistinct : (Node.mk n.facets declared').Distinct := by
        rw [Node.distinct_mk_iff, relaxed.keys_eq]
        exact ⟨distinct.names, relaxed.distinct fun _ member => distinct.property member⟩
      exact ⟨_, .response relaxedDistinct
        (response?_eq_some_iff.mpr ⟨mt relaxed.eq_nil_iff.mp nonempty, rfl⟩)⟩

/-- A validator is ready for use unless the null character stands in the name of one of its
objects. -/
theorem ready_iff : v.ready = .ok v ↔ Node.nullInNames v.fields = false := by
  rw [ready]
  split <;> simp_all

/-- Where fields are relaxed there is a validator as before, and ready if it was.  What was accepted
is accepted with the same report.  What is accepted now was refused exactly if it has a gap. -/
theorem validate_of_relaxed (relaxed : Relaxed declared declared')
    (compiled : CompiledFrom declared numbers v) :
    (∃ v', CompiledFrom declared' numbers v') ∧
      ∀ v', CompiledFrom declared' numbers v' →
        (v'.ready = .ok v' ↔ v.ready = .ok v) ∧
        ∀ input report, report.success = true →
          (v.validate input = .ok report → v'.validate input = .ok report) ∧
          (v'.validate input = .ok report →
            ∃ entries before, input.toEntries = .ok entries ∧ v.validate input = .ok before ∧
              (before.success = false ↔ Gap v.fields v'.fields entries)) := by
  refine ⟨compiled.exists_relaxed relaxed, ?_⟩
  intro v' compiled'
  have fields : Relaxed v.fields v'.fields := by
    rw [compiled.fields_eq, compiled'.fields_eq]
    exact relaxed.ofList
  have alike : v'.numbers = v.numbers := compiled'.numbers_eq.trans compiled.numbers_eq.symm
  refine ⟨by rw [ready_iff, ready_iff, fields.nullInNames_eq], ?_⟩
  intro input report accepted
  simp only [validate, Attempt.map_eq_ok_iff]
  constructor
  · rintro ⟨entries, given, rfl⟩
    have equal : Node.takeFields v.numbers v'.model entries v'.fields =
        Node.takeFields v.numbers v.model entries v.fields :=
      fields.takeFields_eq ((success_run_iff v entries).mp accepted)
    exact ⟨entries, given, by simp only [run, alike, equal]⟩
  · rintro ⟨entries, given, rfl⟩
    refine ⟨entries, v.run entries, given, ⟨entries, given, rfl⟩, ?_⟩
    have free := (success_run_iff v' entries).mp accepted
    rw [alike] at free
    rw [← Bool.not_eq_true, success_run_iff]
    exact ⟨(fields.problems_eq_nil_or_gap free).resolve_left, Gap.problems_ne_nil⟩

/-- What is asked for in an order of which the amount need not be given. -/
def openFields : Entries String (Slot Node) :=
  [("amount", ⟨false, typed "number" []⟩), ("tags", ⟨false, typed "array" []⟩)]

/-- The validator of requests with such an order. -/
def openValidator : Validator :=
  ⟨"RequestParams", .integer,
    [("number", orderNumber.slot), ("order", ⟨true, typed "object" openFields⟩)]⟩

/-- An order of which the amount is null. -/
def openOrder : List (Value × Value) :=
  [(.str "number", .int 7), (.str "order", .dict [(.str "amount", .null)])]

/-- Orders are accepted as before, and besides an order of which the amount is null. -/
theorem validate_of_relaxed_order :
    Relaxed orderValidator.fields openValidator.fields ∧
      CompiledFrom openValidator.fields .integer openValidator ∧
      (∃ report, report.success = true ∧
        orderValidator.validate (.dict acceptedData) = .ok report ∧
        openValidator.validate (.dict acceptedData) = .ok report) ∧
      ∃ report before, report.success = true ∧
        openValidator.validate (.dict openOrder) = .ok report ∧
        orderValidator.validate (.dict openOrder) = .ok before ∧ before.success = false ∧
        Gap orderValidator.fields openValidator.fields openOrder := by
  have inOrder : Relaxed orderFields openFields :=
    .cons rfl (by simp) .nil (.cons rfl id .nil .nil)
  have relaxed : Relaxed orderValidator.fields openValidator.fields :=
    .cons rfl id .nil (.cons rfl id inOrder .nil)
  have compiled : CompiledFrom openValidator.fields .integer openValidator := by
    refine @CompiledFrom.request [orderNumber]
      (some (typed "object" [("order", ⟨true, typed "object" openFields⟩)])) _ ?_ ?_ rfl
    · simp [orderNumber, typed]
    · simp [openFields, typed]
  obtain ⟨-, reports⟩ := validate_of_relaxed relaxed compiledFrom_orderValidator
  obtain ⟨-, reports⟩ := reports openValidator compiled
  refine ⟨relaxed, compiled, ⟨_, rfl, rfl, (reports _ _ rfl).1 rfl⟩, ?_⟩
  obtain ⟨entries, before, given, refused, gap⟩ := (reports (.dict openOrder) _ rfl).2 rfl
  cases given
  cases refused
  exact ⟨_, _, rfl, rfl, rfl, rfl, gap.mp rfl⟩

end Validator

end ApiContract
