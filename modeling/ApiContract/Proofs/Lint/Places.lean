import ApiContract.Proofs.Lint.Location

/-!
# Reports of trees, place by place

A node stands in a tree where names lead to it.  The search makes its findings in
pre-order, each at the location that these names give, and if no name has a dot in
it then no two places have the same location: what a location is made of can be
read from it.  So the report of a tree is what was found, and says of each
malformed node in it what is wrong with the node, at a location of its own.
-/

namespace ApiContract

/-- The location of what names lead to, from one property to the next. -/
def locationOf (location : String) : List String → String
  | [] => location
  | name :: names => locationOf (location ++ ".properties." ++ name) names

/-- A node is malformed itself, as a message says. -/
inductive Facets.Malformed (known : String → Bool) (f : Facets) : String → Prop
  | array (shape : f.shape = .array) (unnamed : ¬∃ element, f.element = some element ∧ element ≠ "") :
      Malformed known f "array type requires 'of'"
  | reference {target : String} (shape : f.shape = .reference) (refers : f.target = some target)
      (unknown : known target = false) :
      Malformed known f ("references unknown component '" ++ target ++ "'")

/-- The message about a node itself says how it is malformed. -/
theorem Facets.defect?_eq_some_iff {known : String → Bool} {f : Facets} {message : String} :
    f.defect? known = some message ↔ f.Malformed known message := by
  constructor
  · intro found
    rw [defect?] at found
    split at found
    · rename_i shape
      split at found
      · cases found
      · rename_i unnamed
        cases found
        exact .array shape (mt Shape.isNamed_eq_true_iff.mpr unnamed)
    · rename_i shape
      rcases Option.isSome_iff_exists.mp (target_isSome_of_shape shape) with ⟨target, refers⟩
      simp only [refers, Option.getD_some] at found
      split at found
      · cases found
      · rename_i unknown
        cases found
        exact .reference shape refers (Bool.eq_false_iff.mpr unknown)
    · cases found
    · cases found
    · cases found
  · intro malformed
    cases malformed with
    | array shape unnamed =>
        simp [defect?, shape, mt Shape.isNamed_eq_true_iff.mp unnamed]
    | reference shape refers unknown => simp [defect?, shape, refers, unknown]

/-- Whether a node is malformed itself is what the message about it says. -/
instance (known : String → Bool) (f : Facets) : Decidable (∃ message, f.Malformed known message) :=
  decidable_of_iff ((f.defect? known).isSome = true)
    (Option.isSome_iff_exists.trans (exists_congr fun _ => f.defect?_eq_some_iff))

namespace Node

mutual

/-- The nodes of a tree in pre-order, each with the names that lead to it. -/
def places : Node → List (List String × Node)
  | .mk f ps => ([], .mk f ps) :: placesBelow ps

/-- The nodes of properties in pre-order. -/
def placesBelow : List (String × Slot Node) → List (List String × Node)
  | [] => []
  | (name, ⟨_, n⟩) :: rest => (places n).map (fun p => (name :: p.1, p.2)) ++ placesBelow rest

end

theorem placesBelow_eq_flatMap (properties : List (String × Slot Node)) :
    placesBelow properties =
      properties.flatMap fun e => e.2.content.places.map fun p => (e.1 :: p.1, p.2) := by
  induction properties with
  | nil => rw [placesBelow, List.flatMap_nil]
  | cons e rest ih => rw [placesBelow, ih, List.flatMap_cons]

/-- Findings in properties are made property by property. -/
theorem propertyFindings_eq_flatMap (known : String → Bool) (location : String)
    (properties : List (String × Slot Node)) :
    propertyFindings known location properties =
      properties.flatMap fun e => e.2.content.findings known (locationOf location [e.1]) := by
  induction properties with
  | nil => rw [propertyFindings, List.flatMap_nil]
  | cons e rest ih => rw [propertyFindings, ih, List.flatMap_cons, locationOf, locationOf]

/-- Findings in a tree are made node by node, in pre-order. -/
theorem findings_eq_filterMap (known : String → Bool) (location : String) (n : Node) :
    n.findings known location = n.places.filterMap fun p =>
      (p.2.facets.defect? known).map (locationOf location p.1, ·) := by
  induction n generalizing location with
  | mk f properties ih =>
      have below : propertyFindings known location properties =
          (placesBelow properties).filterMap fun p =>
            (p.2.facets.defect? known).map (locationOf location p.1, ·) := by
        rw [propertyFindings_eq_flatMap, placesBelow_eq_flatMap, List.filterMap_flatMap]
        apply List.flatMap_congr
        intro e listed
        rw [ih e.1 e.2 listed, List.filterMap_map]
        rfl
      rw [findings, below, places, List.filterMap_cons, facets, locationOf]
      cases f.defect? known with
      | none => rfl
      | some message => rfl

/-- Where names lead to is the tree itself, or where the others lead to in a property of the first
name. -/
theorem mem_places_mk_iff {f : Facets} {properties : List (String × Slot Node)}
    {p : List String × Node} :
    p ∈ (mk f properties).places ↔ p = ([], mk f properties) ∨
      ∃ e ∈ properties, ∃ q ∈ e.2.content.places, p = (e.1 :: q.1, q.2) := by
  simp only [places, placesBelow_eq_flatMap, List.mem_cons, List.mem_flatMap, List.mem_map,
    eq_comm]

/-- The nodes that stand in a tree are those that names lead to. -/
theorem contains_iff_exists_places {n m : Node} :
    n.Contains m ↔ ∃ names, (names, m) ∈ n.places := by
  induction n with
  | mk f properties ih =>
      simp only [mem_places_mk_iff, Prod.mk.injEq]
      constructor
      · intro inside
        cases inside with
        | here => exact ⟨[], Or.inl ⟨rfl, rfl⟩⟩
        | @property _ _ name slot listed inside =>
            rcases (ih name slot listed).mp inside with ⟨names, place⟩
            exact ⟨name :: names, Or.inr ⟨(name, slot), listed, (names, m), place, rfl, rfl⟩⟩
      · rintro ⟨names, ⟨-, rfl⟩ | ⟨e, listed, q, place, -, rfl⟩⟩
        · exact .here _
        · exact .property listed ((ih e.1 e.2 listed).mpr ⟨q.1, place⟩)

/-- The names that lead to a node in a tree are names of properties in it. -/
theorem exists_of_mem_places {n : Node} {p : List String × Node} (place : p ∈ n.places)
    {name : String} (leads : name ∈ p.1) : ∃ m, n.Contains m ∧ name ∈ m.properties.keys := by
  induction n generalizing p with
  | mk f properties ih =>
      rcases mem_places_mk_iff.mp place with rfl | ⟨e, listed, q, below, rfl⟩
      · cases leads
      · rcases List.mem_cons.mp leads with rfl | later
        · exact ⟨_, .here _, List.mem_map_of_mem listed⟩
        · rcases ih e.1 e.2 listed below later with ⟨m, inside, named⟩
          exact ⟨m, .property listed inside, named⟩

/-- Names lead to one node in a tree at most. -/
theorem nodup_names_places {n : Node} (distinct : n.Distinct) : (n.places.map (·.1)).Nodup := by
  induction n with
  | mk f properties ih =>
      rw [places, placesBelow_eq_flatMap, List.map_cons, List.map_flatMap, List.nodup_cons]
      constructor
      · simp
      · rw [List.nodup_flatMap]
        constructor
        · intro e listed
          have inside := ih e.1 e.2 listed (distinct.property listed)
          have longer : Function.Injective (e.1 :: · : List String → List String) :=
            fun _ _ equal => (List.cons.inj equal).2
          simpa [Function.comp_def] using inside.map longer
        · have apart : properties.Pairwise fun d e => d.1 ≠ e.1 :=
            List.pairwise_map.mp distinct.names
          refine apart.imp fun other => ?_
          intro names first second
          simp only [List.mem_map] at first second
          rcases first with ⟨_, ⟨p, -, rfl⟩, rfl⟩
          rcases second with ⟨_, ⟨q, -, rfl⟩, equal⟩
          exact other (List.cons.inj equal).1.symm

end Node

/-! ### Names that are read from a location -/

/-- What names add to a location. -/
def locationTail (names : List String) : List Char :=
  names.flatMap fun name => ".properties.".toList ++ name.toList

theorem toList_locationOf (location : String) (names : List String) :
    (locationOf location names).toList = location.toList ++ locationTail names := by
  induction names generalizing location with
  | nil => simp [locationOf, locationTail]
  | cons name names ih =>
      rw [locationOf, ih]
      simp [locationTail]

/-- Names without dots are read from what they add to a location. -/
theorem locationTail_inj {names others : List String} (dotless : ∀ name ∈ names, '.' ∉ name.toList)
    (dotless' : ∀ name ∈ others, '.' ∉ name.toList)
    (same : locationTail names = locationTail others) : names = others := by
  induction names generalizing others with
  | nil =>
      cases others with
      | nil => rfl
      | cons other others => simp [locationTail] at same
  | cons name names ih =>
      cases others with
      | nil => simp [locationTail] at same
      | cons other others =>
          rcases List.forall_mem_cons.mp dotless with ⟨head, tail⟩
          rcases List.forall_mem_cons.mp dotless' with ⟨head', tail'⟩
          have texts : name.toList ++ locationTail names = other.toList ++ locationTail others := by
            simpa [locationTail] using same
          -- A name ends at the dot that follows it, and a dot follows the last as well.
          have dotted : ∀ names, ∃ rest, locationTail names ++ ['.'] = '.' :: rest := by
            intro names
            cases names with
            | nil => exact ⟨[], rfl⟩
            | cons name names => exact ⟨_, rfl⟩
          rcases dotted names with ⟨x, first⟩
          rcases dotted others with ⟨y, second⟩
          have ended := congrArg (· ++ ['.']) texts
          simp only [List.append_assoc, first, second] at ended
          have equal := eq_of_append_cons_eq head head' ended
          rw [equal] at texts
          rw [String.toList_inj.mp equal, ih tail tail' (List.append_cancel_left texts)]

/-- Names without dots are read from the location of what they lead to. -/
theorem locationOf_inj {location : String} {names others : List String}
    (dotless : ∀ name ∈ names, '.' ∉ name.toList) (dotless' : ∀ name ∈ others, '.' ∉ name.toList)
    (same : locationOf location names = locationOf location others) : names = others := by
  have texts := congrArg String.toList same
  rw [toList_locationOf, toList_locationOf] at texts
  exact locationTail_inj dotless dotless' (List.append_cancel_left texts)

namespace Node

variable {n : Node} {known : String → Bool} {location : String}

/-- Places in a tree have different locations if no name has a dot. -/
theorem nodup_locations (distinct : n.Distinct)
    (dotless : ∀ m, n.Contains m → ∀ name ∈ m.properties.keys, '.' ∉ name.toList)
    (location : String) : (n.places.map fun p => locationOf location p.1).Nodup := by
  have plain : ∀ names ∈ n.places.map (·.1), ∀ name ∈ names, '.' ∉ name.toList := by
    intro names leads name listed
    rcases List.mem_map.mp leads with ⟨p, place, rfl⟩
    rcases exists_of_mem_places place listed with ⟨m, inside, named⟩
    exact dotless m inside name named
  have located := (nodup_names_places distinct).map_on
    fun names first others second same => @locationOf_inj location _ _ (plain names first)
      (plain others second) same
  rwa [List.map_map] at located

/-- Findings stand at the locations of the malformed nodes, in pre-order. -/
theorem keys_findings (n : Node) (known : String → Bool) (location : String) :
    Entries.keys (n.findings known location) =
      (n.places.filter fun p => ∃ message, p.2.facets.Malformed known message).map
        fun p => locationOf location p.1 := by
  have malformed (p : List String × Node) :
      decide (∃ message, p.2.facets.Malformed known message) =
        (p.2.facets.defect? known).isSome := by
    rw [Bool.eq_iff_iff, decide_eq_true_iff, Option.isSome_iff_exists]
    exact exists_congr fun _ => Facets.defect?_eq_some_iff.symm
  simp only [findings_eq_filterMap, malformed]
  induction n.places with
  | nil => rfl
  | cons p rest ih =>
      cases defect : p.2.facets.defect? known with
      | none => simp [defect, ih]
      | some message => simp [defect, ih]

/-- What was found at a location says how the node there is malformed, if no other place in the tree
has its location. -/
theorem mem_findings_iff (located : (n.places.map fun p => locationOf location p.1).Nodup)
    {names : List String} {m : Node} (place : (names, m) ∈ n.places) {message : String} :
    (locationOf location names, message) ∈ n.findings known location ↔
      m.facets.Malformed known message := by
  rw [findings_eq_filterMap, List.mem_filterMap, ← Facets.defect?_eq_some_iff]
  constructor
  · rintro ⟨q, other, found⟩
    rcases Option.map_eq_some_iff.mp found with ⟨text, defect, equal⟩
    rcases Prod.mk.inj equal with ⟨same, rfl⟩
    have here : q = (names, m) := List.inj_on_of_nodup_map located other place same
    rwa [here] at defect
  · intro defect
    exact ⟨(names, m), place, by simp [defect]⟩

/-- The report of a tree in which no name has a dot is what was found in pre-order, each finding at a
location that no other place in the tree has. -/
theorem check_in_preorder (distinct : n.Distinct)
    (dotless : ∀ m, n.Contains m → ∀ name ∈ m.properties.keys, '.' ∉ name.toList)
    (known : String → Bool) (location : String) :
    (∀ m, n.Contains m ↔ ∃ names, (names, m) ∈ n.places) ∧
      (n.places.map fun p => locationOf location p.1).Nodup ∧
      (n.check known location).keys =
        (n.places.filter fun p => ∃ message, p.2.facets.Malformed known message).map
          (fun p => locationOf location p.1) ∧
      (n.check known location).keys.Nodup ∧
      (∀ names m, (names, m) ∈ n.places → ∀ message,
        (n.check known location).get? (locationOf location names) = some message ↔
          m.facets.Malformed known message) := by
  have located := nodup_locations distinct dotless location
  have once : (Entries.keys (n.findings known location)).Nodup := by
    rw [keys_findings]
    exact located.sublist (List.filter_sublist.map _)
  rw [check, Entries.ofList_eq_self once]
  refine ⟨fun _ => contains_iff_exists_places, located, keys_findings n known location, once, ?_⟩
  intro names m place message
  rw [Entries.get?_eq_some_iff once, mem_findings_iff located place]

/-- A tree of arrays and a reference in which names look like parts of a location. -/
def shelves : Node :=
  .mk { Facets.blank with type := .named "object" } [
    ("properties", ⟨true, .mk { Facets.blank with type := .named "array" } [
      ("", ⟨true, .mk { Facets.blank with reference := some "Author" } []⟩)]⟩),
    ("", ⟨true, .mk { Facets.blank with type := .named "array" } []⟩)]

/-- All three are reported, in their order and each at a location of its own. -/
theorem check_in_preorder_shelves :
    shelves.Distinct ∧
      (∀ m, shelves.Contains m → ∀ name ∈ m.properties.keys, '.' ∉ name.toList) ∧
      (shelves.check (fun _ => false) "shelves").keys =
        ["shelves.properties.properties", "shelves.properties.properties.properties.",
          "shelves.properties."] ∧
      (shelves.check (fun _ => false) "shelves").get? (locationOf "shelves" ["properties", ""]) =
        some ("references unknown component '" ++ "Author" ++ "'") := by
  have distinct : shelves.Distinct := by simp [shelves]
  have names : ∀ p ∈ shelves.places, ∀ name ∈ p.2.properties.keys, '.' ∉ name.toList := by
    decide +kernel
  have dotless : ∀ m, shelves.Contains m → ∀ name ∈ m.properties.keys, '.' ∉ name.toList := by
    intro m inside
    rcases contains_iff_exists_places.mp inside with ⟨leading, place⟩
    exact names _ place
  rcases check_in_preorder distinct dotless (fun _ => false) "shelves" with
    ⟨-, -, keys, -, messages⟩
  refine ⟨distinct, dotless, keys.trans (by decide +kernel), ?_⟩
  have place : (["properties", ""], .mk { Facets.blank with reference := some "Author" } []) ∈
      shelves.places := by decide +kernel
  exact (messages _ _ place _).mpr (.reference rfl rfl rfl)

end Node

end ApiContract
