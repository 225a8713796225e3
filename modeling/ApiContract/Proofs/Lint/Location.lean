import ApiContract.Proofs.Lint.Findings

/-!
# Where findings stand

A finding stands at the location of a declaration, or at that of a property in
it, at any depth.  A report shows one finding at a location, the last that is
made there.  So a finding takes the place of another only where the location of
one declaration lies in that of the other, and this is settled here by how
locations begin: those of components and of endpoints begin differently, and so
do those of the parts of an endpoint and of endpoints of different numbers.
-/

namespace ApiContract

/-- A location is another one, or that of a property in it. -/
def Within (outer inner : String) : Prop :=
  inner = outer ∨ ∃ rest, inner = outer ++ ".properties." ++ rest

namespace Within

variable {outer inner name : String}

theorem exists_append (within : Within outer inner) : ∃ rest, inner = outer ++ rest := by
  rcases within with rfl | ⟨rest, rfl⟩
  · exact ⟨"", by simp⟩
  · exact ⟨".properties." ++ rest, String.append_assoc⟩

/-- What lies in a property lies in what the property is of. -/
theorem of_property (within : Within (outer ++ ".properties." ++ name) inner) :
    ∃ rest, inner = outer ++ ".properties." ++ rest := by
  rcases within.exists_append with ⟨rest, rfl⟩
  exact ⟨name ++ rest, String.append_assoc⟩

/-- What stands before two locations does not matter. -/
theorem of_append {before : String} (within : Within (before ++ outer) (before ++ inner)) :
    Within outer inner := by
  rcases within with equal | ⟨rest, equal⟩
  · exact Or.inl ((String.append_right_inj before).mp equal)
  · rw [String.append_assoc, String.append_assoc, String.append_right_inj] at equal
    exact Or.inr ⟨rest, equal.trans String.append_assoc.symm⟩

end Within

/-- No location is that of a property in itself. -/
theorem ne_property (location rest : String) : location ≠ location ++ ".properties." ++ rest := by
  intro equal
  have lengths := congrArg String.length equal
  have step : ".properties.".length = 12 := by decide
  rw [String.length_append, String.length_append, step] at lengths
  omega

/-- Texts differ if they begin with different letters. -/
theorem append_ne_append {a b : String} (letters : Nat) (left : letters ≤ a.toList.length)
    (right : letters ≤ b.toList.length) (different : a.toList.take letters ≠ b.toList.take letters)
    (x y : String) : a ++ x ≠ b ++ y := by
  intro same
  apply different
  have texts := congrArg (fun s : String => s.toList.take letters) same
  simpa [List.take_append_of_le_length left, List.take_append_of_le_length right] using texts

/-- What stands before the first occurrence of a letter is the same in two texts that are. -/
theorem eq_of_append_cons_eq {α : Type} {c : α} {first second x y : List α} (before : c ∉ first)
    (also : c ∉ second) (same : first ++ c :: x = second ++ c :: y) : first = second := by
  rcases List.append_eq_append_iff.mp same with ⟨more, rfl, tail⟩ | ⟨more, rfl, tail⟩
  · cases more with
    | nil => rw [List.append_nil]
    | cons d rest =>
        cases tail
        simp at also
  · cases more with
    | nil => rw [List.append_nil]
    | cons d rest =>
        cases tail
        simp at before

namespace Node

variable {known : String → Bool} {location l m : String}

/-- What is found in properties is found in one of them. -/
theorem mem_propertyFindings_iff {properties : List (String × Slot Node)} :
    (l, m) ∈ propertyFindings known location properties ↔
      ∃ name slot, (name, slot) ∈ properties ∧
        (l, m) ∈ findings known (location ++ ".properties." ++ name) slot.content := by
  induction properties with
  | nil => simp [propertyFindings]
  | cons property rest ih =>
      rcases property with ⟨name, required, n⟩
      rw [propertyFindings, List.mem_append, ih]
      constructor
      · rintro (here | ⟨other, slot, member, later⟩)
        · exact ⟨name, ⟨required, n⟩, List.mem_cons_self, here⟩
        · exact ⟨other, slot, List.mem_cons_of_mem _ member, later⟩
      · rintro ⟨other, slot, member, found⟩
        rcases List.mem_cons.mp member with equal | later
        · cases equal
          exact Or.inl found
        · exact Or.inr ⟨other, slot, later, found⟩

/-- What is found in a node stands at its location, or at that of a property in it. -/
theorem within_of_mem_findings {n : Node} (found : (l, m) ∈ n.findings known location) :
    Within location l := by
  induction n generalizing location with
  | mk f properties ih =>
      rw [findings, List.mem_append] at found
      rcases found with root | below
      · rw [Option.mem_toList, Option.map_eq_some_iff] at root
        rcases root with ⟨message, -, equal⟩
        cases equal
        exact Or.inl rfl
      · rcases mem_propertyFindings_iff.mp below with ⟨name, slot, member, inside⟩
        exact Or.inr (ih name slot member inside).of_property

/-- A report of a node shows at its location what is wrong with the node itself. -/
theorem get?_findings (known : String → Bool) (location : String) (n : Node) :
    Entries.get? (Entries.ofList (n.findings known location)) location =
      n.facets.defect? known := by
  rcases n with ⟨f, properties⟩
  have below : Entries.get? (Entries.ofList (propertyFindings known location properties)) location =
      none := by
    rw [← Option.not_isSome_iff_eq_none, Entries.isSome_get?_ofList_iff]
    rintro ⟨message, found⟩
    rcases mem_propertyFindings_iff.mp found with ⟨name, slot, -, inside⟩
    rcases (within_of_mem_findings inside).of_property with ⟨rest, equal⟩
    exact ne_property location rest equal
  rw [findings, Entries.get?_ofList_append, below, Option.none_or]
  change _ = f.defect? known
  cases f.defect? known with
  | none => rfl
  | some message => simp [Entries.ofList, Entries.putAll, Entries.get?_cons]

end Node

namespace Registry

variable {known : String → Bool} {location l m : String}

/-- What is found in components stands at the location of one, or at that of a property in it. -/
theorem within_of_mem_componentFindings {seen : List String} {components : List Component}
    (found : (l, m) ∈ componentFindings known seen components) :
    ∃ c ∈ components, Within ("components." ++ c.name) l := by
  induction components generalizing seen with
  | nil => cases found
  | cons c rest ih =>
      rw [componentFindings, List.mem_append, List.mem_append] at found
      rcases found with (twice | inside) | later
      · split at twice
        · cases List.mem_singleton.mp twice
          exact ⟨c, List.mem_cons_self, Or.inl rfl⟩
        · cases twice
      · exact ⟨c, List.mem_cons_self, Node.within_of_mem_findings inside⟩
      · rcases ih later with ⟨d, member, within⟩
        exact ⟨d, List.mem_cons_of_mem _ member, within⟩

/-- What is found under a response key stands at its location, or at that of a property. -/
theorem within_of_mem_responseFindings {key : Value} {response : Standing Response}
    {found : Findings} (searched : responseFindings known location key response = .ok found)
    (member : (l, m) ∈ found) :
    ∃ text, key.shown = .ok text ∧ Within (location ++ ".responses." ++ text) l := by
  rw [responseFindings, Attempt.bind_eq_ok_iff] at searched
  rcases searched with ⟨text, shown, searched⟩
  refine ⟨text, shown, ?_⟩
  dsimp only at searched
  split at searched
  · rcases Attempt.map_eq_ok_iff.mp searched with ⟨n, -, rfl⟩
    exact Node.within_of_mem_findings member
  · cases searched
    cases List.mem_singleton.mp member
    exact Or.inl rfl
  · cases searched

/-- What is found in responses is found under one of their keys. -/
theorem mem_allResponseFindings_iff {responses : List (Value × Standing Response)}
    {found : Findings} (searched : allResponseFindings known location responses = .ok found) :
    (l, m) ∈ found ↔ ∃ key response head, (key, response) ∈ responses ∧
      responseFindings known location key response = .ok head ∧ (l, m) ∈ head := by
  induction responses generalizing found with
  | nil =>
      cases searched
      simp
  | cons first rest ih =>
      rcases first with ⟨key, response⟩
      simp only [allResponseFindings, Attempt.do_eq_ok_iff, Attempt.pure_eq_ok_iff] at searched
      rcases searched with ⟨head, headEq, tail, tailEq, rfl⟩
      rw [List.mem_append, ih tailEq]
      constructor
      · rintro (here | ⟨other, answer, more, member, moreEq, later⟩)
        · exact ⟨key, response, head, List.mem_cons_self, headEq, here⟩
        · exact ⟨other, answer, more, List.mem_cons_of_mem _ member, moreEq, later⟩
      · rintro ⟨other, answer, more, member, moreEq, inside⟩
        rcases List.mem_cons.mp member with equal | later
        · cases equal
          cases headEq.symm.trans moreEq
          exact Or.inl inside
        · exact Or.inr ⟨other, answer, more, later, moreEq, inside⟩

/-- The parts of what is found in an endpoint. -/
theorem endpointFindings_eq_ok {e : Endpoint} {found : Findings}
    (searched : endpointFindings known location e = .ok found) :
    ∃ parameters body responses answers, e.parameters = .declared parameters ∧
      bodyFindings known location e.body = .ok body ∧ e.responses = .declared responses ∧
      allResponseFindings known location responses = .ok answers ∧
      found = ownFindings location e ++ parameterFindings known location parameters ++ body ++
        answers := by
  simp only [endpointFindings, Attempt.do_eq_ok_iff, Attempt.pure_eq_ok_iff,
    Held.get_eq_ok_iff] at searched
  rcases searched with ⟨parameters, parametersEq, body, bodyEq, responses, responsesEq, answers,
    answersEq, rfl⟩
  exact ⟨parameters, body, responses, answers, parametersEq, bodyEq, responsesEq, answersEq, rfl⟩

/-- What is found in an endpoint is found in its responses, or stands at the location of another
part of it. -/
theorem mem_endpointFindings {e : Endpoint} {found : Findings}
    (searched : endpointFindings known location e = .ok found) (member : (l, m) ∈ found) :
    (∃ part ∈ [".path", ".operations", ".parameters.", ".request_body"],
      ∃ rest, l = location ++ (part ++ rest)) ∨
      ∃ responses answers, e.responses = .declared responses ∧
        allResponseFindings known location responses = .ok answers ∧ (l, m) ∈ answers := by
  obtain ⟨parameters, body, responses, answers, -, bodyEq, responsesEq, answersEq, rfl⟩ :=
    endpointFindings_eq_ok searched
  rw [List.mem_append, List.mem_append, List.mem_append, ownFindings, List.mem_append] at member
  rcases member with (((path | operations) | parameter) | inBody) | answer
  · left
    split at path
    · cases path
    · cases List.mem_singleton.mp path
      exact ⟨".path", by simp, "", by simp⟩
  · left
    split at operations
    · cases operations
    · cases List.mem_singleton.mp operations
      exact ⟨".operations", by simp, "", by simp⟩
  · left
    rcases List.mem_flatMap.mp parameter with ⟨p, -, inside⟩
    rcases (Node.within_of_mem_findings inside).exists_append with ⟨rest, rfl⟩
    exact ⟨".parameters.", by simp, p.name ++ rest, by simp only [String.append_assoc]⟩
  · left
    cases standing : e.body with
    | none =>
        rw [standing] at bodyEq
        cases bodyEq
        cases inBody
    | some b =>
        rw [standing, bodyFindings, Attempt.map_eq_ok_iff] at bodyEq
        rcases bodyEq with ⟨n, -, rfl⟩
        rcases (Node.within_of_mem_findings inBody).exists_append with ⟨rest, rfl⟩
        exact ⟨".request_body", by simp, rest, by simp only [String.append_assoc]⟩
  · exact Or.inr ⟨responses, answers, responsesEq, answersEq, answer⟩

/-- What is found in an endpoint stands at the location of one of its parts. -/
theorem exists_of_mem_endpointFindings {e : Endpoint} {found : Findings}
    (searched : endpointFindings known location e = .ok found) (member : (l, m) ∈ found) :
    ∃ rest, l = location ++ ("." ++ rest) := by
  rcases mem_endpointFindings searched member with
    ⟨part, listed, rest, rfl⟩ | ⟨responses, answers, -, answersEq, answer⟩
  · have dotted : ∃ name, part = "." ++ name := by
      simp only [List.mem_cons, List.not_mem_nil, or_false] at listed
      rcases listed with rfl | rfl | rfl | rfl
      · exact ⟨"path", rfl⟩
      · exact ⟨"operations", rfl⟩
      · exact ⟨"parameters.", rfl⟩
      · exact ⟨"request_body", rfl⟩
    rcases dotted with ⟨name, rfl⟩
    exact ⟨name ++ rest, by simp only [String.append_assoc]⟩
  · rcases (mem_allResponseFindings_iff answersEq).mp answer with
      ⟨key, response, head, -, headEq, inside⟩
    rcases within_of_mem_responseFindings headEq inside with ⟨text, -, within⟩
    rcases within.exists_append with ⟨rest, rfl⟩
    refine ⟨"responses." ++ (text ++ rest), ?_⟩
    have dotted : ".responses." = "." ++ "responses." := rfl
    rw [dotted]
    simp only [String.append_assoc]

/-- What is found in endpoints is found in one of them, at the location of its number. -/
theorem mem_allEndpointFindings_iff {index : Nat} {endpoints : List Endpoint} {found : Findings}
    (searched : allEndpointFindings known index endpoints = .ok found) :
    (l, m) ∈ found ↔ ∃ i e head, endpoints[i]? = some e ∧
      endpointFindings known (endpointLocation (index + i)) e = .ok head ∧ (l, m) ∈ head := by
  induction endpoints generalizing index found with
  | nil =>
      cases searched
      simp
  | cons e rest ih =>
      simp only [allEndpointFindings, Attempt.do_eq_ok_iff, Attempt.pure_eq_ok_iff] at searched
      rcases searched with ⟨head, headEq, tail, tailEq, rfl⟩
      rw [List.mem_append, ih tailEq]
      constructor
      · rintro (here | ⟨i, d, more, found, moreEq, later⟩)
        · exact ⟨0, e, head, rfl, headEq, here⟩
        · rw [Nat.add_assoc, Nat.add_comm 1] at moreEq
          exact ⟨i + 1, d, more, found, moreEq, later⟩
      · rintro ⟨i, d, more, found, moreEq, inside⟩
        cases i with
        | zero =>
            cases found
            cases headEq.symm.trans moreEq
            exact Or.inl inside
        | succ i =>
            rw [Nat.add_comm i, ← Nat.add_assoc] at moreEq
            exact Or.inr ⟨i, d, more, found, moreEq, inside⟩

/-- Where endpoints are searched to the end, each of them is. -/
theorem exists_of_allEndpointFindings {index : Nat} {endpoints : List Endpoint} {found : Findings}
    (searched : allEndpointFindings known index endpoints = .ok found) {i : Nat} {e : Endpoint}
    (standing : endpoints[i]? = some e) :
    ∃ head, endpointFindings known (endpointLocation (index + i)) e = .ok head := by
  induction endpoints generalizing index found i with
  | nil => cases standing
  | cons first rest ih =>
      simp only [allEndpointFindings, Attempt.do_eq_ok_iff, Attempt.pure_eq_ok_iff] at searched
      rcases searched with ⟨head, headEq, tail, tailEq, -⟩
      cases i with
      | zero =>
          cases standing
          exact ⟨head, headEq⟩
      | succ i =>
          rw [Nat.add_comm i, ← Nat.add_assoc]
          exact ih tailEq standing

/-- Parts of endpoints of different numbers have different locations. -/
theorem eq_of_endpointLocation {i j : Nat} {x y : String}
    (same : endpointLocation i ++ ("." ++ x) = endpointLocation j ++ ("." ++ y)) : i = j := by
  have noBracket : ∀ n : Nat, ']' ∉ (toString n).toList := by
    intro n member
    change ']' ∈ n.repr.toList at member
    rw [Nat.toList_repr] at member
    have digit := Nat.isDigit_of_mem_toDigits (by decide) (by decide) member
    exact absurd digit (by decide)
  have numbers : (toString i).toList ++ ']' :: ("." ++ x).toList =
      (toString j).toList ++ ']' :: ("." ++ y).toList := by
    have texts := congrArg String.toList same
    simpa [endpointLocation] using texts
  have digits : i.repr.toList = j.repr.toList :=
    eq_of_append_cons_eq (noBracket i) (noBracket j) numbers
  have read := congrArg (Nat.ofDigitChars 10 · 0) digits
  simpa only [Nat.toList_repr, Nat.ofDigitChars_ten_toDigits] using read

/-- A report shows what is found in components and in endpoints. -/
theorem problems_eq_ok_iff {r : Registry} {problems : Entries String String} :
    r.problems = .ok problems ↔ ∃ found, allEndpointFindings r.has 0 r.endpoints = .ok found ∧
      problems = Entries.ofList (componentFindings r.has [] r.components ++ found) := by
  simp only [Registry.problems, Registry.findings, Attempt.map_eq_ok_iff]
  constructor
  · rintro ⟨_, ⟨found, foundEq, rfl⟩, rfl⟩
    exact ⟨found, foundEq, rfl⟩
  · rintro ⟨found, foundEq, rfl⟩
    exact ⟨_, ⟨found, foundEq, rfl⟩, rfl⟩

end Registry

end ApiContract
