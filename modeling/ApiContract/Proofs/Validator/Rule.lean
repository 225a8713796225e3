import ApiContract.Validator.Fields

/-!
# How values are taken by shape

A node is a model, takes lists, takes dictionaries as they are, or is a union or a
scalar.  What taking a value gives follows from which of these it is.
-/

namespace ApiContract

/-- A model is an object with properties: its own fields are checked. -/
def Node.IsModel (n : Node) : Prop :=
  n.shape = .object ∧ n.properties ≠ []

/-- A list is taken for arrays and for references that are arrays. -/
def Node.TakesList (n : Node) : Prop :=
  n.shape = .array ∨ n.shape = .reference ∧ n.facets.type = .named "array"

/-- A dictionary is taken as it is for objects without properties and for references that
are no arrays. -/
def Node.TakesDictionary (n : Node) : Prop :=
  n.shape = .object ∧ n.properties = [] ∨
    n.shape = .reference ∧ n.facets.type ≠ .named "array"

/-- Null is taken for numbers and booleans that are not required. -/
def TakesNull (slot : Slot Node) : Prop :=
  slot.content.shape = .scalar ∧ slot.required = false ∧
    (slot.content.facets.type = .named "number" ∨ slot.content.facets.type = .named "boolean")

namespace Node

/-- Every node takes values in one of five ways. -/
theorem shape_cases (n : Node) :
    n.IsModel ∨ n.TakesList ∨ n.TakesDictionary ∨ n.shape = .union ∨ n.shape = .scalar := by
  cases shape : n.shape with
  | reference =>
      by_cases type : n.facets.type = .named "array"
      · exact Or.inr (Or.inl (Or.inr ⟨shape, type⟩))
      · exact Or.inr (Or.inr (Or.inl (Or.inr ⟨shape, type⟩)))
  | array => exact Or.inr (Or.inl (Or.inl shape))
  | union => exact Or.inr (Or.inr (Or.inr (Or.inl rfl)))
  | object =>
      by_cases empty : n.properties = []
      · exact Or.inr (Or.inr (Or.inl (Or.inl ⟨shape, empty⟩)))
      · exact Or.inl ⟨shape, empty⟩
  | scalar => exact Or.inr (Or.inr (Or.inr (Or.inr rfl)))

section

variable {numbers : NumberKind} {model : String} {required : Bool} {v : Value} {n : Node}

/-- A value is taken by the rule of the node. -/
theorem take_eq (numbers : NumberKind) (model : String) (required : Bool) (v : Value) (n : Node) :
    n.take numbers model required v =
      match n.facets.rule (!n.properties.isEmpty) with
      | .record =>
        match v with
        | .dict es => (takeFields numbers model es n.properties).toExcept
        | _ => .error [⟨[], .notRecord model⟩]
      | .list => v.toList
      | .dictionary => v.toDictionary
      | .anything => .ok v.handedOut
      | .scalar kind => kind.take numbers required v := by
  cases n
  rfl

/-- The rule of a node goes by its shape. -/
theorem rule_eq (n : Node) (hasProperties : Bool) :
    n.facets.rule hasProperties =
      match n.shape with
      | .object => if hasProperties then .record else .dictionary
      | .array => .list
      | .reference => if n.facets.type = .named "array" then .list else .dictionary
      | .union => .anything
      | .scalar => .scalar (.of n.facets.type) :=
  rfl

/-- A value of a model is a dictionary of which the fields are checked. -/
theorem take_of_isModel (isModel : n.IsModel) :
    n.take numbers model required v =
      match v with
      | .dict es => (takeFields numbers model es n.properties).toExcept
      | _ => .error [⟨[], .notRecord model⟩] := by
  have rule : n.facets.rule (!n.properties.isEmpty) = .record := by
    simp [rule_eq, isModel.1, isModel.2]
  rw [take_eq, rule]

theorem take_of_takesList (takes : n.TakesList) :
    n.take numbers model required v = v.toList := by
  have rule : n.facets.rule (!n.properties.isEmpty) = .list := by
    rcases takes with shape | ⟨shape, type⟩
    · simp [rule_eq, shape]
    · simp [rule_eq, shape, type]
  rw [take_eq, rule]

theorem take_of_takesDictionary (takes : n.TakesDictionary) :
    n.take numbers model required v = v.toDictionary := by
  have rule : n.facets.rule (!n.properties.isEmpty) = .dictionary := by
    rcases takes with ⟨shape, empty⟩ | ⟨shape, type⟩
    · simp [rule_eq, shape, empty]
    · simp [rule_eq, shape, type]
  rw [take_eq, rule]

theorem take_of_union (shape : n.shape = .union) :
    n.take numbers model required v = .ok v.handedOut := by
  rw [take_eq, rule_eq, shape]

theorem take_of_scalar (shape : n.shape = .scalar) :
    n.take numbers model required v = (ScalarKind.of n.facets.type).take numbers required v := by
  rw [take_eq, rule_eq, shape]

end

end Node

namespace Taken

/-- Fields give their data exactly if they have no problem. -/
theorem toExcept_eq_ok_iff {taken : Taken} {w : Value} :
    taken.toExcept = .ok w ↔ taken.problems = [] ∧ Value.record taken.data = w := by
  by_cases none : taken.problems = [] <;> simp [toExcept, none]

/-- Fields give their problems exactly if they have some. -/
theorem toExcept_eq_error_iff {taken : Taken} {problems : List DataProblem} :
    taken.toExcept = .error problems ↔ taken.problems ≠ [] ∧ taken.problems = problems := by
  by_cases none : taken.problems = [] <;> simp [toExcept, none]

end Taken

namespace Node

variable {numbers : NumberKind} {model : String}

/-- What checking one field gives: nothing if it is left out, and otherwise what is taken for its
value. -/
def takeField (numbers : NumberKind) (model : String) (entries : List (Value × Value))
    (name : String) (slot : Slot Node) : Option (Except (List DataProblem) Value) :=
  match Value.lookup? entries name with
  | none => if slot.required then some (.error [⟨[], .missing⟩]) else none
  | some v => some (slot.content.take numbers (model ++ "_" ++ name) slot.required v)

theorem takeFields_cons (entries : List (Value × Value)) (name : String) (slot : Slot Node)
    (rest : List (String × Slot Node)) :
    takeFields numbers model entries ((name, slot) :: rest) =
      (takeFields numbers model entries rest).cons name
        (takeField numbers model entries name slot) :=
  rfl

/-- Checking depends on nothing but what each of the fields gives. -/
theorem takeFields_congr {entries others : List (Value × Value)}
    {fields : Entries String (Slot Node)}
    (same : ∀ name slot, (name, slot) ∈ fields →
      takeField numbers model entries name slot = takeField numbers model others name slot) :
    takeFields numbers model entries fields = takeFields numbers model others fields := by
  induction fields with
  | nil => rfl
  | cons field rest ih =>
      rcases field with ⟨name, slot⟩
      have here := same name slot List.mem_cons_self
      have later := ih fun name slot member => same name slot (List.mem_cons_of_mem _ member)
      rw [takeFields_cons, takeFields_cons, here, later]

end Node

/-- Null is taken for a scalar exactly where the rule of its kind says so. -/
theorem takesNull_iff {slot : Slot Node} (shape : slot.content.shape = .scalar) :
    TakesNull slot ↔
      (ScalarKind.of slot.content.facets.type).takesNull slot.required = true := by
  by_cases number : slot.content.facets.type = .named "number"
  · simp [TakesNull, ScalarKind.takesNull, ScalarKind.of, shape, number]
  · by_cases boolean : slot.content.facets.type = .named "boolean" <;>
      simp [TakesNull, ScalarKind.takesNull, ScalarKind.of, shape, number, boolean]

end ApiContract
