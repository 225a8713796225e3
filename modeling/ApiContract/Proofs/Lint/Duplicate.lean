import ApiContract.Proofs.Lint.Location
import ApiContract.Proofs.Registry.Built

/-!
# What the report says of components of one name

All components of a name are reported at one location, those after the first as
declared more than once and each malformed one as such.  So the report says there
what is wrong with the last of them, or, if nothing is, that there are several.
That there are several goes unreported where the last is malformed, and what is
wrong with an earlier one always does.
-/

namespace ApiContract.Registry

variable {known : String → Bool} {name : String} {seen : List String}

/-- What the report says of the components of a name, where `several` says whether a component
before them has the name. -/
def verdict (known : String → Bool) (several : Bool) (named : List Component) : Option String :=
  (named.getLast?.bind (·.node.facets.defect? known)).or
    (if several && !named.isEmpty || 2 ≤ named.length then
      some "component declared more than once" else none)

/-- One component after another of the same name: the verdict on the later stands. -/
theorem verdict_cons (several : Bool) (c : Component) (rest : List Component) :
    verdict known several (c :: rest) =
      (verdict known true rest).or ((c.node.facets.defect? known).or
        (if several then some "component declared more than once" else none)) := by
  cases rest with
  | nil => simp [verdict]
  | cons d others =>
      have again : verdict known several (c :: d :: others) = verdict known true (d :: others) := by
        simp [verdict]
      have told : (verdict known true (d :: others)).isSome := by
        simp [verdict]
      rw [again, Option.or_of_isSome told]

/-- What is found in components is found in the first and then in the others. -/
theorem componentFindings_cons (c : Component) (rest : List Component) :
    componentFindings known seen (c :: rest) =
      componentFindings known seen [c] ++ componentFindings known (seen ++ [c.name]) rest := by
  simp [componentFindings]

/-- The report of one component at its own location. -/
theorem get?_componentFindings_self (c : Component) :
    Entries.get? (Entries.ofList (componentFindings known seen [c])) ("components." ++ c.name) =
      (c.node.facets.defect? known).or
        (if seen.contains c.name then some "component declared more than once" else none) := by
  rw [componentFindings, componentFindings, List.append_nil, Entries.get?_ofList_append,
    Node.get?_findings]
  cases seen.contains c.name with
  | true => simp [Entries.ofList, Entries.putAll, Entries.get?_cons]
  | false => rfl

/-- The report of one component says nothing at the location of another name, unless the component
has a property there. -/
theorem get?_componentFindings_other {c : Component} (other : c.name ≠ name)
    (apart : ∀ rest, name ≠ c.name ++ ".properties." ++ rest) :
    Entries.get? (Entries.ofList (componentFindings known seen [c])) ("components." ++ name) =
      none := by
  rw [← Option.not_isSome_iff_eq_none, Entries.isSome_get?_ofList_iff]
  rintro ⟨message, found⟩
  rcases within_of_mem_componentFindings found with ⟨d, member, within⟩
  cases List.mem_singleton.mp member
  rcases within.of_append with equal | ⟨rest, equal⟩
  · exact other equal.symm
  · exact apart rest equal

/-- What the report of components says at the location of a name: the verdict on those of the name,
if none of the others has a property there. -/
theorem get?_componentFindings {components : List Component}
    (apart : ∀ c ∈ components, ∀ rest, name ≠ c.name ++ ".properties." ++ rest) :
    Entries.get? (Entries.ofList (componentFindings known seen components))
        ("components." ++ name) =
      verdict known (seen.contains name) (components.filter (·.name == name)) := by
  induction components generalizing seen with
  | nil => simp [componentFindings, verdict, Entries.ofList, Entries.putAll]
  | cons c rest ih =>
      rcases List.forall_mem_cons.mp apart with ⟨here, later⟩
      rw [componentFindings_cons, Entries.get?_ofList_append, ih later]
      by_cases same : c.name = name
      · subst same
        have several : (seen ++ [c.name]).contains c.name = true := by simp
        rw [get?_componentFindings_self, several, List.filter_cons_of_pos (by simp), verdict_cons]
      · have before : (seen ++ [c.name]).contains name = seen.contains name := by
          simp [Ne.symm same]
        rw [get?_componentFindings_other same here, Option.or_none, before,
          List.filter_cons_of_neg (by simp [same])]

/-- What is found in a component is found in components. -/
theorem mem_componentFindings_of_node {components : List Component} {c : Component}
    (member : c ∈ components) {l m : String}
    (found : (l, m) ∈ c.node.findings known ("components." ++ c.name)) :
    (l, m) ∈ componentFindings known seen components := by
  induction components generalizing seen with
  | nil => cases member
  | cons first rest ih =>
      rw [componentFindings, List.mem_append, List.mem_append]
      rcases List.mem_cons.mp member with rfl | later
      · exact Or.inl (Or.inr found)
      · exact Or.inr (ih later)

/-- That there are several components of a name is found if there are. -/
theorem mem_componentFindings_of_several {components : List Component}
    (several : name ∈ seen ∧ components.filter (·.name == name) ≠ [] ∨
      2 ≤ (components.filter (·.name == name)).length) :
    ("components." ++ name, "component declared more than once") ∈
      componentFindings known seen components := by
  induction components generalizing seen with
  | nil => simp at several
  | cons c rest ih =>
      rw [componentFindings, List.mem_append, List.mem_append]
      by_cases same : c.name = name
      · rw [List.filter_cons_of_pos (by simp [same])] at several
        by_cases before : name ∈ seen
        · left
          simp [same, before]
        · right
          apply ih
          left
          refine ⟨by simp [same], ?_⟩
          rcases several with ⟨again, -⟩ | two
          · exact absurd again before
          · rw [List.length_cons] at two
            exact List.ne_nil_of_length_pos (by omega)
      · rw [List.filter_cons_of_neg (by simp [same])] at several
        right
        apply ih
        simpa [Ne.symm same] using several

/-- What is found in endpoints is not found at the location of a component. -/
theorem get?_allEndpointFindings {index : Nat} {endpoints : List Endpoint} {found : Findings}
    (searched : allEndpointFindings known index endpoints = .ok found) (name : String) :
    Entries.get? (Entries.ofList found) ("components." ++ name) = none := by
  rw [← Option.not_isSome_iff_eq_none, Entries.isSome_get?_ofList_iff]
  rintro ⟨message, member⟩
  rcases (mem_allEndpointFindings_iff searched).mp member with ⟨i, e, head, -, headEq, inside⟩
  rcases exists_of_mem_endpointFindings headEq inside with ⟨rest, equal⟩
  rw [endpointLocation, String.append_assoc, String.append_assoc] at equal
  exact append_ne_append 1 (by decide) (by decide) (by decide) _ _ equal

/-- What a report says at the location of the components of a name.  It says something if there are
several or if one of them is malformed itself.  Unless another component has a property at that
location, it says what is wrong with the last of them, or else that there are several. -/
theorem reported_components {r : Registry} {problems : Entries String String}
    (searched : r.problems = .ok problems) (name : String) :
    (2 ≤ (r.named name).length ∨
        (∃ c ∈ r.named name, c.node.facets.defect? r.has ≠ none) →
      ∃ message, problems.get? ("components." ++ name) = some message) ∧
    ((∀ c ∈ r.components, ∀ rest, name ≠ c.name ++ ".properties." ++ rest) →
      problems.get? ("components." ++ name) =
        ((r.named name).getLast?.bind (·.node.facets.defect? r.has)).or
          (if 2 ≤ (r.named name).length then some "component declared more than once"
            else none)) := by
  rcases problems_eq_ok_iff.mp searched with ⟨found, foundEq, rfl⟩
  rw [Entries.get?_ofList_append, get?_allEndpointFindings foundEq, Option.none_or]
  constructor
  · intro faulty
    rw [← Option.isSome_iff_exists, Entries.isSome_get?_ofList_iff]
    rcases faulty with several | ⟨c, member, defect⟩
    · exact ⟨_, mem_componentFindings_of_several (Or.inr several)⟩
    · rcases List.mem_filter.mp member with ⟨listed, same⟩
      obtain rfl : c.name = name := by simpa using same
      have shown := Node.get?_findings r.has ("components." ++ c.name) c.node
      obtain ⟨message, found⟩ := Entries.isSome_get?_ofList_iff.mp
        (shown ▸ Option.isSome_iff_ne_none.mpr defect)
      exact ⟨message, mem_componentFindings_of_node listed found⟩
  · intro apart
    rw [get?_componentFindings apart, verdict, named]
    simp

/-- Declaring books, of a type. -/
def bookCall (type : String) : Call :=
  .component (.str "Book") (.leaf [("type", .str type)])

/-- Books of a type. -/
def bookOf (type : String) : Component :=
  ⟨"Book", .mk { Facets.blank with type := .named type } []⟩

/-- Books are declared twice, and at first as arrays of nothing. -/
def malformedFirst : Registry :=
  ⟨[bookOf "array", bookOf "object"], []⟩

/-- Books are declared twice, and at last as arrays of nothing. -/
def malformedLast : Registry :=
  ⟨[bookOf "object", bookOf "array"], []⟩

/-- Of books that are malformed at first, the report says that there are several. -/
theorem reported_components_books :
    ∃ problems, malformedFirst.problems = .ok problems ∧
      2 ≤ (malformedFirst.named "Book").length ∧
      (∃ message, problems.get? "components.Book" = some message) ∧
      problems.get? "components.Book" = some "component declared more than once" := by
  have searched : malformedFirst.problems =
      .ok [("components.Book", "component declared more than once")] := by decide +kernel
  have several : 2 ≤ (malformedFirst.named "Book").length := by decide
  have apart : ∀ c ∈ malformedFirst.components, ∀ rest,
      "Book" ≠ c.name ++ ".properties." ++ rest := by
    intro c member rest equal
    have name : c.name = "Book" := by
      simp only [malformedFirst, List.mem_cons, List.not_mem_nil, or_false] at member
      rcases member with rfl | rfl <;> rfl
    rw [name] at equal
    exact ne_property "Book" rest equal
  rcases reported_components searched "Book" with ⟨told, verdict⟩
  exact ⟨_, searched, several, told (Or.inl several), (verdict apart).trans (by decide +kernel)⟩

/-- The report of components is not complete.  Of books that are malformed at first, it does not say
that they are, and of books that are malformed at last, it does not say that there are several. -/
theorem reported_components_once :
    (malformedFirst.Built ∧ (bookOf "array") ∈ malformedFirst.components ∧
      (bookOf "array").node.facets.defect? malformedFirst.has = some "array type requires 'of'" ∧
      malformedFirst.problems =
        .ok [("components.Book", "component declared more than once")]) ∧
    malformedLast.Built ∧ 2 ≤ (malformedLast.named "Book").length ∧
      malformedLast.problems = .ok [("components.Book", "array type requires 'of'")] := by
  have first : malformedFirst.Built :=
    Built.of_calls [bookCall "array", bookCall "object"] (by simp [bookCall, Call.declares])
      (by decide +kernel)
  have last : malformedLast.Built :=
    Built.of_calls [bookCall "object", bookCall "array"] (by simp [bookCall, Call.declares])
      (by decide +kernel)
  have firstReport : malformedFirst.problems =
      .ok [("components.Book", "component declared more than once")] := by decide +kernel
  have lastReport : malformedLast.problems =
      .ok [("components.Book", "array type requires 'of'")] := by decide +kernel
  exact ⟨⟨first, List.mem_cons_self, rfl, firstReport⟩, last, by decide, lastReport⟩

end ApiContract.Registry
