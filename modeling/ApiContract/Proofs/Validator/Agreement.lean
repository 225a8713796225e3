import ApiContract.Proofs.Validator.Report

/-!
# Data that fields cannot tell apart

Of the entries of a dictionary, checking reads those under the names of fields,
and of a dictionary that is the value of a model again only those under the names
of its properties.  So nothing else in the data makes a difference, and neither
does the order of their keys.  Lists, dictionaries that are taken as they are and
what is given for a union are read as a whole: there every key counts.
-/

namespace ApiContract

/-- Two values are the same for a node: they are one value, or the node is a model and they are
dictionaries that hold the same for each of its properties. -/
inductive SameFor : Node → Value → Value → Prop
  | same (n : Node) (v : Value) : SameFor n v v
  | record {n : Node} {entries others : List (Value × Value)} (isModel : n.IsModel)
      (given : ∀ name ∈ n.properties.keys,
        (Value.lookup? entries name).isSome = (Value.lookup? others name).isSome)
      (values : ∀ name slot v w, (name, slot) ∈ n.properties →
        Value.lookup? entries name = some v → Value.lookup? others name = some w →
          SameFor slot.content v w) :
      SameFor n (.dict entries) (.dict others)

/-- Two dictionaries agree on some fields: what one of them holds for a field, the other holds
too. -/
structure Agree (fields : Entries String (Slot Node)) (entries others : List (Value × Value)) :
    Prop where
  given : ∀ name ∈ fields.keys,
    (Value.lookup? entries name).isSome = (Value.lookup? others name).isSome
  values : ∀ name slot v w, (name, slot) ∈ fields → Value.lookup? entries name = some v →
    Value.lookup? others name = some w → SameFor slot.content v w

namespace Agree

variable {fields : Entries String (Slot Node)} {entries others : List (Value × Value)}

/-- Dictionaries that hold the same under the names of fields agree on them. -/
theorem of_lookup (same : ∀ name ∈ fields.keys,
    Value.lookup? entries name = Value.lookup? others name) : Agree fields entries others where
  given name listed := congrArg Option.isSome (same name listed)
  values name slot v w declared held held' := by
    rw [same name (List.mem_map_of_mem declared), held'] at held
    cases held
    exact .same slot.content v

/-- Dictionaries that agree on fields give the same for each of them, if values that are the same
for a node are taken alike. -/
theorem takeFields_eq (agree : Agree fields entries others) (numbers : NumberKind)
    (model : String)
    (values : ∀ name slot v w, (name, slot) ∈ fields → SameFor slot.content v w →
      slot.content.take numbers (model ++ "_" ++ name) slot.required v =
        slot.content.take numbers (model ++ "_" ++ name) slot.required w) :
    Node.takeFields numbers model entries fields = Node.takeFields numbers model others fields := by
  apply Node.takeFields_congr
  intro name slot declared
  have given := agree.given name (List.mem_map_of_mem declared)
  rw [Node.takeField, Node.takeField]
  cases held : Value.lookup? entries name with
  | none =>
      cases held' : Value.lookup? others name with
      | none => rfl
      | some w => simp [held, held'] at given
  | some v =>
      cases held' : Value.lookup? others name with
      | none => simp [held, held'] at given
      | some w =>
          have same := agree.values name slot v w declared held held'
          simp only [values name slot v w declared same]

end Agree

/-- Values that are the same for a node are taken alike. -/
theorem SameFor.take_eq {numbers : NumberKind} {model : String} {required : Bool} {n : Node}
    {v w : Value} (same : SameFor n v w) :
    n.take numbers model required v = n.take numbers model required w := by
  induction n generalizing model required v w with
  | mk facets properties ih =>
      cases same with
      | same => rfl
      | record isModel given values =>
          have agree : Agree properties _ _ := ⟨given, values⟩
          have equal := agree.takeFields_eq numbers model fun name slot v w declared same =>
            ih name slot declared same
          rw [Node.take_of_isModel isModel, Node.take_of_isModel isModel]
          exact congrArg Taken.toExcept equal

/-! ### Keys that do not matter -/

namespace Value

/-- Entries under other texts are not found. -/
theorem lookup?_append_of_not_mem {entries more : List (Value × Value)} {name : String}
    (other : ∀ e ∈ more, e.1.text? ≠ some name) :
    lookup? (entries ++ more) name = lookup? entries name := by
  have none : more.find? (·.1.text? == some name) = none :=
    List.find?_eq_none.mpr fun e member => by simpa using other e member
  rw [lookup?, lookup?, List.find?_append, none, Option.or_none]

/-- Keys that are the same text are one key. -/
theorem sameKey_of_text? {v w : Value} {s : String} (first : v.text? = some s)
    (second : w.text? = some s) : sameKey v w = true := by
  cases v <;> simp only [text?, reduceCtorEq] at first <;>
    cases w <;> simp_all [sameKey, text?]

/-- In a dictionary, where no key occurs twice, an entry is found wherever it stands. -/
theorem lookup?_of_perm {entries others : List (Value × Value)}
    (distinct : entries.Pairwise fun d e => sameKey d.1 e.1 = false)
    (reordered : entries.Perm others) (name : String) :
    lookup? entries name = lookup? others name := by
  have matching : entries.filter (·.1.text? == some name) =
      others.filter (·.1.text? == some name) := by
    have kept := reordered.filter (·.1.text? == some name)
    have apart := distinct.filter (·.1.text? == some name)
    have texts : ∀ e ∈ entries.filter (·.1.text? == some name), e.1.text? = some name := by
      intro e member
      simpa using (List.mem_filter.mp member).2
    match found : entries.filter (·.1.text? == some name) with
    | [] =>
        rw [found] at kept ⊢
        exact kept.nil_eq
    | [e] =>
        rw [found] at kept ⊢
        exact List.singleton_perm.mp kept
    | d :: e :: rest =>
        rw [found] at apart texts
        have same := sameKey_of_text? (texts d (by simp)) (texts e (by simp))
        simp [same] at apart
  rw [lookup?, lookup?, ← List.head?_filter, matching, List.head?_filter]

end Value

namespace Validator

/-- A validator gives one report for all dictionaries that agree on its fields.  A dictionary
agrees with itself in another order of keys, and after entries for which there is no field were
added. -/
theorem validate_eq_of_agree (v : Validator) (entries others : List (Value × Value)) :
    (Agree v.fields entries others →
      ∃ report, v.validate (.dict entries) = .ok report ∧
        v.validate (.dict others) = .ok report) ∧
    ((entries.Pairwise fun d e => d.1.sameKey e.1 = false) → entries.Perm others →
      Agree v.fields entries others) ∧
    ((∀ e ∈ others, ∀ name ∈ v.fields.keys, e.1.text? ≠ some name) →
      Agree v.fields (entries ++ others) entries) := by
  refine ⟨?_, ?_, ?_⟩
  · intro agree
    have equal := agree.takeFields_eq v.numbers v.model fun _ _ _ _ _ same => same.take_eq
    refine ⟨v.run entries, rfl, ?_⟩
    simp only [validate, Value.toEntries, Except.map, run, equal]
  · intro distinct reordered
    exact .of_lookup fun name _ => Value.lookup?_of_perm distinct reordered name
  · intro undeclared
    apply Agree.of_lookup
    intro name listed
    exact Value.lookup?_append_of_not_mem fun e member => undeclared e member name listed

/-- An order as it is asked for, and the same order in which the keys come in another order and
there is more, in the order and beside it. -/
def plainOrder : List (Value × Value) :=
  [(.str "number", .int 7), (.str "order", .dict [(.str "amount", .str "12")])]

@[inherit_doc plainOrder]
def strayOrder : List (Value × Value) :=
  [(.str "colour", .str "red"),
    (.str "order", .dict [(.int 1, .null), (.str "amount", .str "12"), (.str "note", .list [])]),
    (.str "number", .int 7)]

/-- Both orders are reported alike. -/
theorem validate_eq_of_agree_order :
    Agree orderValidator.fields plainOrder strayOrder ∧
      ∃ report, orderValidator.validate (.dict plainOrder) = .ok report ∧
        orderValidator.validate (.dict strayOrder) = .ok report ∧ report.success = true := by
  have inOrder : SameFor (typed "object" orderFields) (.dict [(.str "amount", .str "12")])
      (.dict [(.int 1, .null), (.str "amount", .str "12"), (.str "note", .list [])]) := by
    have same : Agree orderFields [(.str "amount", .str "12")]
        [(.int 1, .null), (.str "amount", .str "12"), (.str "note", .list [])] :=
      .of_lookup (by simp [orderFields, Value.lookup?, Value.text?])
    exact .record ⟨rfl, List.cons_ne_nil _ _⟩ same.given same.values
  have agree : Agree orderValidator.fields plainOrder strayOrder := by
    constructor
    · simp [orderValidator, plainOrder, strayOrder, Value.lookup?, Value.text?]
    · intro name slot v w declared held held'
      rcases List.mem_cons.mp declared with number | order
      · cases number
        cases held
        cases held'
        exact .same _ _
      · cases List.mem_singleton.mp order
        cases held
        cases held'
        exact inOrder
  obtain ⟨report, first, second⟩ :=
    (validate_eq_of_agree orderValidator plainOrder strayOrder).1 agree
  refine ⟨agree, report, first, second, ?_⟩
  cases first
  rfl

end Validator

end ApiContract
