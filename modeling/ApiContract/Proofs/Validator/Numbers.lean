import ApiContract.Proofs.Validator.Report

/-!
# Validators of requests and of responses

A body and a response with the same properties are validated by the same rules,
except that numbers are whole in requests and doubles in responses.  So both
validators find problems at the same places, and take the same data up to numbers,
wherever every value that is given for a number is coerced to a whole number
exactly if it is coerced to a double.  If no field that is checked is a number, this
is so for all data, and the data are the same.

The texts of messages may differ, since they speak of integers or of numbers, and
name the models of requests and of responses.
-/

namespace ApiContract

/-- A number is a scalar of the type that names numbers. -/
def Node.IsNumber (n : Node) : Prop :=
  n.shape = .scalar ∧ n.facets.type = .named "number"

/-- A field is reached by checking if it is declared, or is reached from the properties of a
declared field that is a model. -/
inductive Reached : Entries String (Slot Node) → Slot Node → Prop
  | here {fields : Entries String (Slot Node)} {name : String} {slot : Slot Node}
      (declared : (name, slot) ∈ fields) : Reached fields slot
  | inside {fields : Entries String (Slot Node)} {name : String} {slot inner : Slot Node}
      (declared : (name, slot) ∈ fields) (isModel : slot.content.IsModel)
      (further : Reached slot.content.properties inner) : Reached fields inner

/-- A value is given for a field that is reached: under its name, in the entries of a dictionary or
in a dictionary that they hold for a model. -/
inductive GivenFor : Entries String (Slot Node) → List (Value × Value) → Slot Node → Value → Prop
  | here {fields : Entries String (Slot Node)} {entries : List (Value × Value)} {name : String}
      {slot : Slot Node} {v : Value} (declared : (name, slot) ∈ fields)
      (present : Value.lookup? entries name = some v) : GivenFor fields entries slot v
  | inside {fields : Entries String (Slot Node)} {entries inside : List (Value × Value)}
      {name : String} {slot inner : Slot Node} {v : Value} (declared : (name, slot) ∈ fields)
      (isModel : slot.content.IsModel)
      (present : Value.lookup? entries name = some (.dict inside))
      (further : GivenFor slot.content.properties inside inner v) : GivenFor fields entries inner v

/-- No field that is reached is a number. -/
def NumberFree (fields : Entries String (Slot Node)) : Prop :=
  ∀ slot, Reached fields slot → ¬slot.content.IsNumber

/-- A value is coerced to a whole number exactly if it is coerced to a double. -/
def Value.CoercedAlike (v : Value) : Prop :=
  (∃ n, v.toInteger = .ok n) ↔ ∃ x, v.toDouble = .ok x

/-- All values that are given for numbers are coerced to whole numbers exactly if they are coerced
to doubles. -/
def NumbersAlike (fields : Entries String (Slot Node)) (entries : List (Value × Value)) : Prop :=
  ∀ slot v, GivenFor fields entries slot v → slot.content.IsNumber → v.CoercedAlike

/-- Data that are taken for fields are the same up to numbers: where one has a whole number and the
other a double, the field is a number, and both are what some value is coerced to. -/
inductive SameButNumbers :
    Entries String (Slot Node) → Entries String Value → Entries String Value → Prop
  | nil : SameButNumbers [] [] []
  | absent {name : String} {slot : Slot Node} {rest : Entries String (Slot Node)}
      {data others : Entries String Value} (later : SameButNumbers rest data others) :
      SameButNumbers ((name, slot) :: rest) data others
  | same {name : String} {slot : Slot Node} {rest : Entries String (Slot Node)}
      {data others : Entries String Value} (v : Value) (later : SameButNumbers rest data others) :
      SameButNumbers ((name, slot) :: rest) ((name, v) :: data) ((name, v) :: others)
  | number {name : String} {slot : Slot Node} {rest : Entries String (Slot Node)}
      {data others : Entries String Value} {v : Value} {n : Int} {x : Binary64}
      (isNumber : slot.content.IsNumber) (whole : v.toInteger = .ok n)
      (double : v.toDouble = .ok x) (later : SameButNumbers rest data others) :
      SameButNumbers ((name, slot) :: rest) ((name, .int n) :: data) ((name, .float x) :: others)
  | record {name : String} {slot : Slot Node} {rest : Entries String (Slot Node)}
      {data others inner outer : Entries String Value} (isModel : slot.content.IsModel)
      (inside : SameButNumbers slot.content.properties inner outer)
      (later : SameButNumbers rest data others) :
      SameButNumbers ((name, slot) :: rest) ((name, .record inner) :: data)
        ((name, .record outer) :: others)

/-- Where no number is reached, data that are the same up to numbers are the same. -/
theorem SameButNumbers.eq_of_numberFree {fields : Entries String (Slot Node)}
    {data others : Entries String Value} (same : SameButNumbers fields data others)
    (free : NumberFree fields) : data = others := by
  have rest {field : String × Slot Node} {rest : Entries String (Slot Node)}
      (free : NumberFree (field :: rest)) : NumberFree rest := by
    intro slot reached
    apply free
    cases reached with
    | here declared => exact .here (List.mem_cons_of_mem _ declared)
    | inside declared isModel further =>
        exact .inside (List.mem_cons_of_mem _ declared) isModel further
  induction same with
  | nil => rfl
  | absent _ ih => exact ih (rest free)
  | same v _ ih => rw [ih (rest free)]
  | number isNumber => exact absurd isNumber (free _ (.here List.mem_cons_self))
  | record isModel _ _ inside ih =>
      have below := inside fun slot reached =>
        free slot (.inside List.mem_cons_self isModel reached)
      rw [below, ih (rest free)]

/-- Data without entries are the same for all fields. -/
theorem SameButNumbers.empty (fields : Entries String (Slot Node)) :
    SameButNumbers fields [] [] := by
  induction fields with
  | nil => exact .nil
  | cons field rest ih => exact .absent ih

/-- A field that is given a value is reached. -/
theorem GivenFor.reached {fields : Entries String (Slot Node)} {entries : List (Value × Value)}
    {slot : Slot Node} {v : Value} (given : GivenFor fields entries slot v) :
    Reached fields slot := by
  induction given with
  | here declared _ => exact .here declared
  | inside declared isModel _ _ ih => exact .inside declared isModel ih

/-- Without numbers, no value is given for one. -/
theorem NumberFree.numbersAlike {fields : Entries String (Slot Node)} (free : NumberFree fields)
    (entries : List (Value × Value)) : NumbersAlike fields entries :=
  fun slot _ given isNumber => absurd isNumber (free slot given.reached)

/-! ### Single values -/

/-- What a whole number in a request and a double in a response come to for a node: problems at the
same places, or data that are the same up to numbers. -/
inductive ComesAlike (n : Node) :
    Except (List DataProblem) Value → Except (List DataProblem) Value → Prop
  | refused {problems others : List DataProblem}
      (places : problems.map (·.path) = others.map (·.path)) :
      ComesAlike n (.error problems) (.error others)
  | same (v : Value) : ComesAlike n (.ok v) (.ok v)
  | number {v : Value} {m : Int} {x : Binary64} (isNumber : n.IsNumber)
      (whole : v.toInteger = .ok m) (double : v.toDouble = .ok x) :
      ComesAlike n (.ok (.int m)) (.ok (.float x))
  | record {data others : Entries String Value} (isModel : n.IsModel)
      (inside : SameButNumbers n.properties data others) :
      ComesAlike n (.ok (.record data)) (.ok (.record others))

theorem ComesAlike.refl {n : Node} (taken : Except (List DataProblem) Value) :
    ComesAlike n taken taken := by
  cases taken with
  | ok v => exact .same v
  | error problems => exact .refused rfl

/-- Only numbers are coerced by the kind of numbers. -/
theorem ScalarKind.take_eq_of_ne_number {kind : ScalarKind} (other : kind ≠ .number)
    (required : Bool) (v : Value) :
    kind.take .integer required v = kind.take .double required v := by
  cases kind with
  | number => exact absurd rfl other
  | boolean => rfl
  | text => rfl

/-- A scalar comes to the same up to numbers, if a value for a number is coerced alike. -/
theorem comesAlike_scalar {n : Node} (shape : n.shape = .scalar) (required : Bool) {v : Value}
    (alike : n.IsNumber → v.CoercedAlike) :
    ComesAlike n ((ScalarKind.of n.facets.type).take .integer required v)
      ((ScalarKind.of n.facets.type).take .double required v) := by
  by_cases number : n.facets.type = .named "number"
  · have kind : ScalarKind.of n.facets.type = .number := if_pos number
    have alike := alike ⟨shape, number⟩
    rw [kind, ScalarKind.take, ScalarKind.take]
    split
    · exact .same _
    · cases whole : v.toInteger with
      | ok m =>
          obtain ⟨x, double⟩ := alike.mp ⟨m, whole⟩
          simp only [ScalarKind.coerce, whole, double, Except.map]
          exact .number ⟨shape, number⟩ whole double
      | error fault =>
          cases double : v.toDouble with
          | ok x =>
              obtain ⟨m, taken⟩ := alike.mpr ⟨x, double⟩
              simp [whole] at taken
          | error other =>
              simp only [ScalarKind.coerce, whole, double, Except.map]
              exact .refused rfl
  · have kind : ScalarKind.of n.facets.type ≠ .number := by
      rw [ScalarKind.of, if_neg number]
      split <;> simp
    rw [ScalarKind.take_eq_of_ne_number kind]
    exact .refl _

/-! ### Trees of fields -/

/-- Fields in a request and in a response come to problems at the same places, and to data that are
the same up to numbers. -/
structure Taken.ComeAlike (fields : Entries String (Slot Node)) (taken other : Taken) : Prop where
  places : taken.problems.map (·.path) = other.problems.map (·.path)
  data : SameButNumbers fields taken.data other.data

namespace Taken.ComeAlike

variable {rest : Entries String (Slot Node)} {taken other : Taken} {name : String}
  {slot : Slot Node}

theorem of_absent (alike : ComeAlike rest taken other) :
    ComeAlike ((name, slot) :: rest) taken other :=
  ⟨alike.places, .absent alike.data⟩

/-- One more field comes alike before others that do. -/
theorem cons {first second : Except (List DataProblem) Value}
    (here : ComesAlike slot.content first second) (alike : ComeAlike rest taken other) :
    ComeAlike ((name, slot) :: rest) (taken.cons name (some first))
      (other.cons name (some second)) := by
  rcases alike with ⟨places, data⟩
  cases here with
  | @refused problems others samePlaces =>
      constructor
      · have within : ∀ ps : List DataProblem,
            (ps.map (·.within name)).map (·.path) = (ps.map (·.path)).map (name :: ·) := by
          intro ps
          rw [List.map_map, List.map_map]
          rfl
        simp only [Taken.cons, List.map_append, within, samePlaces, places]
      · exact .absent data
  | same v => exact ⟨places, .same v data⟩
  | number isNumber whole double => exact ⟨places, .number isNumber whole double data⟩
  | record isModel inside => exact ⟨places, .record isModel inside data⟩

/-- There are problems in both or in neither. -/
theorem problems_eq_nil_iff (alike : ComeAlike rest taken other) :
    taken.problems = [] ↔ other.problems = [] := by
  rw [← List.map_eq_nil_iff, alike.places, List.map_eq_nil_iff]

/-- The value of a model comes alike if its fields do. -/
theorem toExcept {n : Node} (isModel : n.IsModel) (alike : ComeAlike n.properties taken other) :
    ComesAlike n taken.toExcept other.toExcept := by
  by_cases free : taken.problems = []
  · rw [Taken.toExcept_eq_ok_iff.mpr ⟨free, rfl⟩,
      Taken.toExcept_eq_ok_iff.mpr ⟨alike.problems_eq_nil_iff.mp free, rfl⟩]
    exact .record isModel alike.data
  · rw [Taken.toExcept_eq_error_iff.mpr ⟨free, rfl⟩,
      Taken.toExcept_eq_error_iff.mpr ⟨mt alike.problems_eq_nil_iff.mpr free, rfl⟩]
    exact .refused alike.places

end Taken.ComeAlike

/-- Fields come alike if the values that are given for them do. -/
theorem comeAlike_of_values {fields : Entries String (Slot Node)} {model other : String}
    {entries : List (Value × Value)}
    (values : ∀ name slot v, (name, slot) ∈ fields → Value.lookup? entries name = some v →
      ComesAlike slot.content
        (slot.content.take .integer (model ++ "_" ++ name) slot.required v)
        (slot.content.take .double (other ++ "_" ++ name) slot.required v)) :
    Taken.ComeAlike fields (Node.takeFields .integer model entries fields)
      (Node.takeFields .double other entries fields) := by
  induction fields with
  | nil => exact ⟨rfl, .nil⟩
  | cons field rest ih =>
      rcases field with ⟨name, slot⟩
      have later := ih fun name slot v declared =>
        values name slot v (List.mem_cons_of_mem _ declared)
      rw [Node.takeFields_cons, Node.takeFields_cons, Node.takeField, Node.takeField]
      cases held : Value.lookup? entries name with
      | none =>
          cases slot.required with
          | true => exact .cons (.refused rfl) later
          | false => exact .of_absent later
      | some v => exact .cons (values name slot v List.mem_cons_self held) later

/-- A value comes alike for a node if it is coerced alike for a number, and if what it gives for
numbers is coerced alike for a model. -/
theorem comesAlike_take {n : Node} {v : Value} (alike : n.IsNumber → v.CoercedAlike)
    (inside : n.IsModel → ∀ entries, v = .dict entries → NumbersAlike n.properties entries)
    (model other : String) (required : Bool) :
    ComesAlike n (n.take .integer model required v) (n.take .double other required v) := by
  induction n generalizing model other required v with
  | mk facets properties ih =>
      rcases (Node.mk facets properties).shape_cases with isModel | takes | takes | shape | shape
      · rw [Node.take_of_isModel isModel, Node.take_of_isModel isModel]
        cases v with
        | dict entries =>
            apply Taken.ComeAlike.toExcept isModel
            apply comeAlike_of_values
            intro name slot v declared present
            have numbers := inside isModel entries rfl
            apply ih name slot declared
            · exact numbers slot v (.here declared present)
            · rintro inner below rfl slot v given
              exact numbers slot v (.inside declared inner present given)
        | _ => exact .refused rfl
      · rw [Node.take_of_takesList takes, Node.take_of_takesList takes]
        exact .refl _
      · rw [Node.take_of_takesDictionary takes, Node.take_of_takesDictionary takes]
        exact .refl _
      · rw [Node.take_of_union shape, Node.take_of_union shape]
        exact .refl _
      · rw [Node.take_of_scalar shape, Node.take_of_scalar shape]
        exact comesAlike_scalar shape required alike

/-- Fields come alike wherever the values that are given for numbers are coerced alike. -/
theorem NumbersAlike.comeAlike {fields : Entries String (Slot Node)}
    {entries : List (Value × Value)} (numbers : NumbersAlike fields entries)
    (model other : String) :
    Taken.ComeAlike fields (Node.takeFields .integer model entries fields)
      (Node.takeFields .double other entries fields) := by
  apply comeAlike_of_values
  intro name slot v declared present
  apply comesAlike_take
  · exact numbers slot v (.here declared present)
  · rintro isModel inner rfl slot v given
    exact numbers slot v (.inside declared isModel present given)

/-! ### Reports -/

namespace ErrorTree

/-- How many messages stand at a place depends on nothing but the places that messages are about. -/
theorem length_messagesAt_collect {errors others : List (List String × String)}
    (places : errors.map (·.1) = others.map (·.1)) (path : List String) :
    (messagesAt (collect errors) path).map List.length =
      (messagesAt (collect others) path).map List.length := by
  by_cases root : path = []
  · subst root
    rfl
  · have extends_iff : ∀ es : List (List String × String), Extends es path ↔
        ∃ place ∈ es.map (·.1), path <+: rooted place ∧ path ≠ rooted place := by
      simp [Extends]
    have length_eq : ∀ es : List (List String × String), (messagesFor es path).length =
        ((es.map (·.1)).filter fun place => rooted place == path).length := by
      intro es
      rw [messagesFor, List.length_map, List.filter_map, List.length_map]
      rfl
    have further : Extends errors path ↔ Extends others path := by
      rw [extends_iff, extends_iff, places]
    have lengths : (messagesFor errors path).length = (messagesFor others path).length := by
      rw [length_eq, length_eq, places]
    ext k
    simp only [Option.map_eq_some_iff, messagesAt_collect_eq_some_iff root,
      ← List.length_pos_iff]
    constructor
    · rintro ⟨texts, ⟨last, some, rfl⟩, rfl⟩
      exact ⟨_, ⟨mt further.mpr last, lengths ▸ some, rfl⟩, lengths.symm⟩
    · rintro ⟨texts, ⟨last, some, rfl⟩, rfl⟩
      exact ⟨_, ⟨mt further.mp last, lengths ▸ some, rfl⟩, lengths⟩

end ErrorTree

open ErrorTree

/-- Reports say the same up to a relation between their data: both or neither say success, and as
many messages stand at every place. -/
structure Validation.SameUpTo (related : Entries String Value → Entries String Value → Prop)
    (report other : Validation) : Prop where
  success : report.success = other.success
  data : related report.data other.data
  places : ∀ path, (messagesAt report.errors path).map List.length =
    (messagesAt other.errors path).map List.length

namespace Validator

/-- Where numbers are coerced alike, validators of the same fields give reports that are the same up
to numbers. -/
theorem sameUpTo_run {fields : Entries String (Slot Node)} {entries : List (Value × Value)}
    (numbers : NumbersAlike fields entries) (model other : String) :
    (run ⟨model, .integer, fields⟩ entries).SameUpTo (SameButNumbers fields)
      (run ⟨other, .double, fields⟩ entries) := by
  have alike := numbers.comeAlike model other
  constructor
  · rw [Bool.eq_iff_iff, success_run_iff, success_run_iff, alike.problems_eq_nil_iff]
  · by_cases free : (Node.takeFields .integer model entries fields).problems = []
    · have otherFree := alike.problems_eq_nil_iff.mp free
      simpa [run, free, otherFree] using alike.data
    · have otherFree := mt alike.problems_eq_nil_iff.mpr free
      simpa [run, free, otherFree] using SameButNumbers.empty fields
  · intro path
    rw [errors_run, errors_run]
    apply length_messagesAt_collect
    rw [List.map_map, List.map_map]
    exact alike.places

/-- A body and a response with the same properties have a validator unless there are none, and both
validators are ready for use, or neither is.  Data that cannot be read as a dictionary are
refused by both alike.  For all others both give a report.  If no number is reached, the reports
have the same success, the same data, and messages at the same places.  And if the values that
are given for numbers are coerced to whole numbers exactly if they are coerced to doubles, this
holds with data that are the same up to numbers. -/
theorem request_response_alike {body : Node} {response : Response}
    (names : body.properties.keys.Nodup) (same : response.properties = body.properties) :
    (body.properties = [] ∧ request? [] (some body) = none ∧ response? response = none) ∨
      ∃ asked answered, request? [] (some body) = some asked ∧
        response? response = some answered ∧
        ((∃ v, asked.ready = .ok v) ↔ ∃ v, answered.ready = .ok v) ∧
        ∀ data,
          (∃ failure, asked.validate data = .error failure ∧
            answered.validate data = .error failure) ∨
          ∃ entries report other, data.toEntries = .ok entries ∧
            asked.validate data = .ok report ∧ answered.validate data = .ok other ∧
            (NumberFree body.properties → report.SameUpTo Eq other) ∧
            (NumbersAlike body.properties entries →
              report.SameUpTo (SameButNumbers body.properties) other) := by
  have fields : table [] (some body) = body.properties := by
    rw [table_eq_ofList]
    exact Entries.ofList_eq_self names
  by_cases empty : body.properties = []
  · have none : response.properties = [] := same.trans empty
    exact Or.inl ⟨empty, by simp [request?, fields, empty], by simp [response?, none]⟩
  · have asked := request?_eq_some_iff.mpr
      (⟨fields.trans_ne empty, rfl⟩ : table [] (some body) ≠ [] ∧ _)
    have answered := response?_eq_some_iff.mpr
      (⟨same.trans_ne empty, rfl⟩ : response.properties ≠ [] ∧ _)
    rw [fields] at asked
    rw [same] at answered
    refine Or.inr ⟨_, _, asked, answered, ?_, ?_⟩
    · simp only [ready]
      split <;> simp
    · intro data
      cases read : data.toEntries with
      | error failure => exact Or.inl ⟨failure, by simp [validate, read, Except.map]⟩
      | ok entries =>
          refine Or.inr ⟨entries, _, _, rfl, by rw [validate, read]; rfl,
            by rw [validate, read]; rfl, ?_, fun numbers => sameUpTo_run numbers _ _⟩
          intro free
          rcases sameUpTo_run (free.numbersAlike entries) "RequestParams" "ResponseBody" with
            ⟨success, data, places⟩
          exact ⟨success, data.eq_of_numberFree free, places⟩

/-- A note, which has no number in it. -/
def noteBody : Node :=
  typed "object" [("note", ⟨true, typed "object" [("text", ⟨true, typed "string" []⟩)]⟩)]

theorem numberFree_noteBody : NumberFree noteBody.properties := by
  rintro slot (declared | ⟨declared, -, below | ⟨further, isModel, -⟩⟩)
  · cases List.mem_singleton.mp declared
    simp [Node.IsNumber, typed, Node.facets]
  · cases List.mem_singleton.mp declared
    cases List.mem_singleton.mp below
    simp [Node.IsNumber, typed, Node.facets]
  · cases List.mem_singleton.mp declared
    cases List.mem_singleton.mp further
    exact absurd rfl isModel.2

/-- An order with an amount that is written as a text. -/
def writtenOrder : List (Value × Value) :=
  [(.str "order", .dict [(.str "amount", .str "12")])]

theorem numbersAlike_writtenOrder : NumbersAlike orderBody.properties writtenOrder := by
  rintro slot v (⟨declared, -⟩ | ⟨declared, -, present, ⟨field, held⟩ | ⟨field, isModel, -⟩⟩) number
  · cases List.mem_singleton.mp declared
    simp [Node.IsNumber, typed, Node.facets] at number
  · cases List.mem_singleton.mp declared
    cases present
    rcases List.mem_cons.mp field with amount | tags
    · cases amount
      cases held
      exact ⟨fun _ => ⟨_, rfl⟩, fun _ => ⟨_, rfl⟩⟩
    · cases List.mem_singleton.mp tags
      cases held
  · cases List.mem_singleton.mp declared
    rcases List.mem_cons.mp field with amount | tags
    · cases amount
      exact absurd rfl isModel.2
    · cases List.mem_singleton.mp tags
      exact absurd rfl isModel.2

/-- A note without text is refused alike, and an order is accepted with its amount as a whole number
or as a double. -/
theorem request_response_alike_order :
    (∃ asked answered report other,
      request? [] (some noteBody) = some asked ∧ response? noteBody = some answered ∧
        asked.validate (.dict [(.str "note", .dict [])]) = .ok report ∧
        answered.validate (.dict [(.str "note", .dict [])]) = .ok other ∧
        report.SameUpTo Eq other ∧
        messagesAt report.errors ["note", "text"] = some ["Field required"]) ∧
    ∃ asked answered report other,
      request? [] (some orderBody) = some asked ∧ response? orderBody = some answered ∧
        asked.validate (.dict writtenOrder) = .ok report ∧
        answered.validate (.dict writtenOrder) = .ok other ∧
        report.SameUpTo (SameButNumbers orderBody.properties) other ∧
        report.success = true ∧
        report.data = [("order", Value.record [("amount", .int 12)])] := by
  constructor
  · have names : noteBody.properties.keys.Nodup := by simp [noteBody, typed, Node.properties]
    rcases @request_response_alike noteBody noteBody names rfl with
      ⟨none, -⟩ | ⟨asked, answered, ask, answer, -, validated⟩
    · cases none
    · cases ask
      cases answer
      rcases validated (.dict [(.str "note", .dict [])]) with
        ⟨failure, refused, -⟩ | ⟨entries, report, other, -, first, second, same, -⟩
      · cases refused
      · have same := same numberFree_noteBody
        cases first
        cases second
        exact ⟨_, _, _, _, rfl, rfl, rfl, rfl, same, rfl⟩
  · have names : orderBody.properties.keys.Nodup := by simp [orderBody, typed, Node.properties]
    rcases @request_response_alike orderBody orderBody names rfl with
      ⟨none, -⟩ | ⟨asked, answered, ask, answer, -, validated⟩
    · cases none
    · cases ask
      cases answer
      rcases validated (.dict writtenOrder) with
        ⟨failure, refused, -⟩ | ⟨entries, report, other, read, first, second, -, same⟩
      · cases refused
      · cases read
        have same := same numbersAlike_writtenOrder
        cases first
        cases second
        exact ⟨_, _, _, _, rfl, rfl, rfl, rfl, same, rfl, rfl⟩

end Validator

end ApiContract
