import ApiContract.Proofs.Checked
import ApiContract.Schema.Spec

/-!
# Options that are completed by properties

Properties may be given with the options of a node, under a name of their own.
No other option is read from there.  So options that say nothing of properties
are read the same when properties are put after them, except that the node that
is read has these properties.
-/

namespace ApiContract

namespace Options

/-- The name of the option that holds the properties. -/
def propertiesName : String :=
  "properties"

/-- Options of which nothing is said but the properties. -/
def OnlyProperties (more : Options) : Prop :=
  ∀ option ∈ more, option.1 = .str propertiesName

variable {α : Type} {options more : Options} {name : String}

theorem get?_eq_none_iff :
    options.get? name = none ↔ ∀ option ∈ options, option.1.text? ≠ some name := by
  simp [get?, List.find?_eq_none]

theorem get?_append_of_none (none : more.get? name = none) :
    get? (options ++ more) name = get? options name := by
  rw [get?, Option.map_eq_none_iff] at none
  rw [get?, List.find?_append, none, Option.or_none, get?]

theorem OnlyProperties.get?_eq_none (only : more.OnlyProperties) (other : name ≠ propertiesName) :
    more.get? name = none := by
  rw [get?_eq_none_iff]
  intro option member
  rw [only option member]
  simpa [Value.text?] using other.symm

section Append

variable (only : more.OnlyProperties)
include only

theorem get?_append (other : name ≠ propertiesName) :
    get? (options ++ more) name = get? options name :=
  get?_append_of_none (only.get?_eq_none other)

theorem optional_append (other : name ≠ propertiesName) (default : α) (check : Value → Checked α) :
    optional (options ++ more) name default check = optional options name default check := by
  rw [optional, get?_append only other, optional]

theorem mandatory_append (other : name ≠ propertiesName) (check : Value → Checked α) :
    mandatory (options ++ more) name check = mandatory options name check := by
  rw [mandatory, get?_append only other, mandatory]

theorem spelling_append {second : String} (other : name ≠ propertiesName)
    (otherSecond : second ≠ propertiesName) :
    spelling (options ++ more) name second = spelling options name second := by
  rw [spelling, get?_append only other, get?_append only otherSecond, spelling]

/-- Properties are known. -/
theorem unknown_append {known : List String} (knows : propertiesName ∈ known) :
    unknown known (options ++ more) = unknown known options := by
  have nothing : unknown known more = [] := by
    rw [unknown, List.filterMap_eq_nil_iff]
    intro option member
    rw [only option member]
    simp [Value.text?, knows]
  rw [unknown, List.filterMap_append, ← unknown, ← unknown, nothing, List.append_nil]

end Append

theorem spelling_cases (options : Options) (name second : String) :
    options.spelling name second = name ∨ options.spelling name second = second := by
  rw [spelling]
  split
  · exact .inr rfl
  · exact .inl rfl

theorem spelling_ne {second : String} (other : name ≠ propertiesName)
    (otherSecond : second ≠ propertiesName) : options.spelling name second ≠ propertiesName := by
  rcases spelling_cases options name second with same | same
  · rwa [same]
  · rwa [same]

theorem known_append (only : more.OnlyProperties) (kind : List String) :
    known (options ++ more) kind = known options kind := by
  rw [known, spelling_append only (by decide) (by decide), known]

theorem mem_known (options : Options) (kind : List String) :
    propertiesName ∈ options.known kind := by
  simp [known, propertiesName]

/-- A name that is known in no spelling is not known. -/
theorem not_mem_known {kind : List String}
    (strange : name ∉ ["type", "of", "description", "as", "as_", "enum", "allowable_values",
      "nullable", propertiesName] ++ kind) : name ∉ options.known kind := by
  intro listed
  rcases spelling_cases options "as" "as_" with same | same <;>
    simp [known, same, propertiesName] at listed strange <;> simp [strange] at listed

theorem checkRequired_append (only : more.OnlyProperties) :
    checkRequired (options ++ more) = checkRequired options :=
  optional_append only (by decide) _ _

/-- What is unknown is not given, if nothing is refused for being unknown. -/
theorem get?_eq_none_of_unknown {known : List String} (none : unknown known options = [])
    (strange : name ∉ known) : options.get? name = Option.none := by
  rw [get?_eq_none_iff]
  intro option member text
  have fine := List.filterMap_eq_nil_iff.mp none option member
  simp [text, strange] at fine

end Options

/-- Options that say nothing of properties, and what completes them: nothing, or what is read as
some properties. -/
structure Options.Completed (options more : Options) (properties : Entries String (Slot Node)) :
    Prop where
  only : more.OnlyProperties
  bare : Options.properties options = .valid []
  read : Options.properties (options ++ more) = .valid properties

/-- An option before the others changes nothing about properties if it is not theirs. -/
theorem Options.Completed.cons {options more : Options} {properties : Entries String (Slot Node)}
    (completed : options.Completed more properties) (name : String) (v : Value)
    (other : name ≠ propertiesName) : Completed ((.str name, v) :: options) more properties := by
  have apart : (Value.str name == .str "properties") = false := by
    simpa [propertiesName] using other
  refine ⟨completed.only, ?_, ?_⟩
  · rw [Options.properties, apart, if_neg Bool.false_ne_true, completed.bare]
  · rw [List.cons_append, Options.properties, apart, if_neg Bool.false_ne_true, completed.read]

/-! ### Reading nodes -/

/-- A node with other properties. -/
def Node.withProperties (properties : Entries String (Slot Node)) (n : Node) : Node :=
  .mk n.facets properties

/-- A slot with other properties. -/
def Slot.withProperties (properties : Entries String (Slot Node)) (slot : Slot Node) : Slot Node :=
  ⟨slot.required, slot.content.withProperties properties⟩

section Completed

open Options

variable {options more : Options} {properties : Entries String (Slot Node)}
variable (completed : options.Completed more properties)
include completed

theorem Facets.ofOptions_completed :
    Facets.ofOptions (options ++ more) = Facets.ofOptions options := by
  have only := completed.only
  rw [Facets.ofOptions, spelling_append only (by decide) (by decide),
    optional_append only (by decide), optional_append only (by decide),
    optional_append only (by decide), optional_append only (spelling_ne (by decide) (by decide)),
    optional_append only (by decide), optional_append only (by decide),
    optional_append only (by decide), Facets.ofOptions]

theorem Node.ofOptions_completed :
    Node.ofOptions (options ++ more) =
      Node.withProperties properties <$> Node.ofOptions options := by
  rw [Node.ofOptions, Node.ofOptions, Node.ofChecked, Node.ofChecked, completed.read,
    completed.bare, Facets.ofOptions_completed completed]
  cases Facets.ofOptions options <;> rfl

theorem Response.ofOptions_completed :
    Response.ofOptions (options ++ more) =
      Node.withProperties properties <$> Response.ofOptions options := by
  have only := completed.only
  rw [Response.ofOptions, Response.ofOptions, Node.plain, Node.plain, known_append only,
    unknown_append only (mem_known _ _), Node.ofOptions_completed completed, Checked.refusing_map]

theorem Property.ofOptions_completed :
    Property.ofOptions (options ++ more) =
      Slot.withProperties properties <$> Property.ofOptions options := by
  have only := completed.only
  have node := Node.ofOptions_completed completed
  rw [Node.ofOptions, Node.ofOptions] at node
  rw [Property.ofOptions, Property.ofOptions, Slot.ofChecked, Slot.ofChecked, known_append only,
    unknown_append only (mem_known _ _), node, checkRequired_append only, ← Checked.refusing_map]
  cases Node.ofChecked options (Options.properties options) <;>
    cases checkRequired options <;> rfl

theorem Component.ofOptions_completed :
    Component.ofOptions (options ++ more) =
      (fun c => { c with node := c.node.withProperties properties }) <$>
        Component.ofOptions options := by
  have only := completed.only
  rw [Component.ofOptions, Component.ofOptions, known_append only,
    unknown_append only (mem_known _ _), Node.ofOptions_completed completed,
    mandatory_append only (by decide), ← Checked.refusing_map]
  cases Node.ofOptions options <;> cases options.mandatory "name" Value.checkShown <;> rfl

theorem Parameter.ofOptions_completed :
    Parameter.ofOptions (options ++ more) =
      (fun p => { p with node := p.node.withProperties properties }) <$>
        Parameter.ofOptions options := by
  have only := completed.only
  rw [Parameter.ofOptions, Parameter.ofOptions, spelling_append only (by decide) (by decide),
    known_append only, unknown_append only (mem_known _ _), Node.ofOptions_completed completed,
    mandatory_append only (by decide), optional_append only (spelling_ne (by decide) (by decide)),
    checkRequired_append only, ← Checked.refusing_map]
  cases Node.ofOptions options <;> cases options.mandatory "name" Value.checkShown <;>
    cases options.optional (options.spelling "in" "in_") "query" Value.checkShown <;>
      cases checkRequired options <;> rfl

end Completed

/-! ### Arguments of a declaration -/

section Own

open Options

variable {options more : Options}

/-- Options of a declaration with something to call are the options of the node, completed or not,
and name nothing else to call. -/
theorem Options.ownFrom_append (only : more.OnlyProperties) {arguments : List String}
    (apart : propertiesName ∉ arguments) {own : Options}
    (valid : options.ownFrom true arguments = .ok own) :
    own = options ∧ (options ++ more).callFault? = none ∧
      ∀ inside, (options ++ more).ownFrom inside arguments = .ok (options ++ more) := by
  have once : options.givenTwice? true arguments = none := by
    rw [ownFrom] at valid
    split at valid
    · cases valid
    · assumption
  have absent : ∀ name ∈ "self" :: callName :: arguments, (options ++ more).get? name = none := by
    intro name member
    have other : name ≠ propertiesName := by
      rintro rfl
      simp [propertiesName, callName] at member
      exact apart member
    rw [get?_append only other]
    simpa using List.find?_eq_none.mp once name member
  have uncalled : ∀ option ∈ options ++ more, (option.1.text? != some callName) = true := by
    simpa using get?_eq_none_iff.mp (absent callName (by simp))
  refine ⟨?_, ?_, ?_⟩
  · rw [ownFrom, once] at valid
    rw [← Except.ok.inj valid, List.filter_eq_self]
    exact fun option member => uncalled option (List.mem_append_left _ member)
  · rw [callFault?, absent callName (by simp), Option.bind_none]
  · intro inside
    have still : (options ++ more).givenTwice? inside arguments = none := by
      rw [givenTwice?, List.find?_eq_none]
      intro name member
      have listed : name ∈ "self" :: callName :: arguments := by
        cases inside with
        | true => exact member
        | false =>
            exact List.mem_cons.mpr ((List.mem_cons.mp member).imp_right (List.mem_cons_of_mem _))
      simp [absent name listed]
    rw [ownFrom, still, List.filter_eq_self.mpr uncalled]

/-- Options that are read as a property repeat no argument of its declaration. -/
theorem Property.ownFrom_of_valid {slot : Slot Node}
    (valid : Property.ofOptions options = .valid slot) :
    ∃ own, options.ownFrom true ["name"] = .ok own := by
  obtain ⟨none, -⟩ := Checked.refusing_eq_valid_iff.mp valid
  have strange : ∀ name ∈ ["self", callName, "name"], options.get? name = Option.none := by
    simp only [List.forall_mem_cons]
    refine ⟨?_, ?_, ?_, by simp⟩ <;>
      exact get?_eq_none_of_unknown none (not_mem_known (by decide))
  have once : options.givenTwice? true ["name"] = Option.none := by
    rw [givenTwice?, List.find?_eq_none]
    intro name member
    simp [strange name member]
  exact ⟨_, by rw [ownFrom, once]⟩

end Own

end ApiContract
