import ApiContract.Proofs.Validator.ErrorTree

/-!
# Where paths lead in error trees

What stands in error trees was found by looking up one step after the other.  Here
it is said of all their entries: no step stands twice in a branch, so a path leads
to one tree at most, and that is what was looked up.  With this the trees that
messages make are known entry by entry: the messages about the places that no
message goes beyond, and branches on the way to them.
-/

namespace ApiContract.ErrorTree

/-- A path leads through error trees, entry by entry, to a tree. -/
inductive LeadsTo : Entries String ErrorTree → List String → ErrorTree → Prop
  | here {trees : Entries String ErrorTree} {step : String} {tree : ErrorTree}
      (listed : (step, tree) ∈ trees) : LeadsTo trees [step] tree
  | further {trees branches : Entries String ErrorTree} {step : String} {path : List String}
      {tree : ErrorTree} (listed : (step, .branch branches) ∈ trees)
      (inside : LeadsTo branches path tree) : LeadsTo trees (step :: path) tree

/-- No step stands for two of the branches of a tree, wherever paths lead in it. -/
def Distinct (tree : Option ErrorTree) : Prop :=
  ∀ path, (children (under path tree)).keys.Nodup

/-- A message grows trees in which no step stands twice to such trees. -/
theorem Distinct.grow {tree : Option ErrorTree} (distinct : Distinct tree) (message : String)
    (place : List String) : Distinct (some (grow message place tree)) := by
  intro path
  by_cases onTheWay : path <+: place
  · rcases onTheWay with ⟨rest, rfl⟩
    rw [under_grow_append]
    cases rest with
    | nil =>
        rw [ErrorTree.grow, children_addHere]
        exact distinct path
    | cons step rest => exact Entries.nodup_keys_put _ _ _ (distinct path)
  · rw [under_grow_of_not_isPrefix _ onTheWay]
    exact distinct path

/-- No step stands twice in the trees that messages make. -/
theorem distinct_collect (errors : List (List String × String)) :
    Distinct (some (.branch (collect errors))) := by
  induction errors using List.reverseRecOn with
  | nil =>
      intro path
      cases path with
      | nil => exact List.nodup_nil
      | cons step path =>
          rw [under_cons, collect, List.foldl_nil, children, Entries.get?_nil, under_none]
          exact List.nodup_nil
  | append_singleton errors e ih =>
      rw [collect_concat, branch_enter _ (rooted_ne_nil _)]
      exact ih.grow e.2 (rooted e.1)

/-- No step stands twice in a branch of trees in which none does. -/
theorem Distinct.branch {trees branches : Entries String ErrorTree} {step : String}
    (distinct : Distinct (some (.branch trees)))
    (found : trees.get? step = some (.branch branches)) : Distinct (some (.branch branches)) := by
  intro path
  rw [← found]
  exact distinct (step :: path)

/-- Where no step stands twice, a path leads to what stands at it. -/
theorem leadsTo_iff {trees : Entries String ErrorTree}
    (distinct : Distinct (some (.branch trees))) {path : List String} {tree : ErrorTree} :
    LeadsTo trees path tree ↔ path ≠ [] ∧ standing trees path = some tree := by
  induction path generalizing trees with
  | nil =>
      constructor
      · intro leads
        cases leads
      · rintro ⟨nonempty, -⟩
        exact absurd rfl nonempty
  | cons step path ih =>
      have found {tree : ErrorTree} : trees.get? step = some tree ↔ (step, tree) ∈ trees :=
        Entries.get?_eq_some_iff (distinct [])
      rw [standing, under_cons, children]
      constructor
      · intro leads
        refine ⟨List.cons_ne_nil _ _, ?_⟩
        cases leads with
        | here listed => exact found.mpr listed
        | further listed inside =>
            rw [found.mpr listed]
            exact ((ih (distinct.branch (found.mpr listed))).mp inside).2
      · rintro ⟨-, stands⟩
        cases path with
        | nil => exact .here (found.mp stands)
        | cons next path =>
            cases first : trees.get? step with
            | none =>
                rw [first, under_none] at stands
                cases stands
            | some child =>
                rw [first] at stands
                cases child with
                | messages texts =>
                    have nowhere : under (next :: path) (some (.messages texts)) = none :=
                      under_none path
                    cases nowhere.symm.trans stands
                | branch branches =>
                    have inside := (ih (distinct.branch first)).mpr
                      ⟨List.cons_ne_nil _ _, stands⟩
                    exact .further (found.mp first) inside

/-- A path leads to messages exactly if some are about its end and none about a place further on,
and then to all that are about its end. -/
theorem leadsTo_messages_iff {lines : List (List String × String)} {path texts : List String} :
    LeadsTo (collect lines) path (.messages texts) ↔
      (∃ e ∈ lines, rooted e.1 = path) ∧ ¬Extends lines path ∧ texts = messagesFor lines path := by
  have occurs : messagesFor lines path ≠ [] ↔ ∃ e ∈ lines, rooted e.1 = path := by
    simp [messagesFor, List.filter_eq_nil_iff]
  have held : standing (collect lines) path = some (.messages texts) ↔
      messagesAt (collect lines) path = some texts := by
    rw [messagesAt]
    split
    · rename_i equal
      simp [equal]
    · rename_i other
      simp only [reduceCtorEq, iff_false]
      exact other texts
  rw [leadsTo_iff (distinct_collect lines), held, ← occurs]
  by_cases nonempty : path = []
  · subst nonempty
    have none : messagesFor lines [] = [] := by
      simp [messagesFor, rooted_ne_nil]
    simp [none]
  · rw [messagesAt_collect_eq_some_iff nonempty]
    tauto

/-- A path leads to a branch exactly if some message is about a place further on. -/
theorem exists_leadsTo_branch_iff {lines : List (List String × String)} {path : List String} :
    (∃ branches, LeadsTo (collect lines) path (.branch branches)) ↔
      path ≠ [] ∧ Extends lines path := by
  simp only [leadsTo_iff (distinct_collect lines), exists_and_left]
  refine and_congr_right fun nonempty => ?_
  have shows := shows_standing_collect lines nonempty
  constructor
  · rintro ⟨branches, stands⟩
    by_contra last
    rw [shows.messages last] at stands
    split at stands <;> cases stands
  · intro further
    rcases shows.branch further with ⟨first, rest, stands⟩
    exact ⟨first :: rest, stands⟩

/-- A branch to which a path leads is not empty, and no step stands twice in it. -/
theorem of_leadsTo_branch {lines : List (List String × String)} {path : List String}
    {branches : Entries String ErrorTree}
    (leads : LeadsTo (collect lines) path (.branch branches)) :
    branches ≠ [] ∧ branches.keys.Nodup := by
  rcases (leadsTo_iff (distinct_collect lines)).mp leads with ⟨nonempty, stands⟩
  have further := (exists_leadsTo_branch_iff.mp ⟨branches, leads⟩).2
  rcases (shows_standing_collect lines nonempty).branch further with ⟨first, rest, equal⟩
  have distinct := distinct_collect lines path
  rw [← standing, stands] at distinct
  refine ⟨?_, distinct⟩
  rintro rfl
  cases stands.symm.trans equal

/-- Which places some message goes beyond does not depend on the order of the messages. -/
theorem extends_congr {lines others : List (List String × String)} (perm : others.Perm lines)
    (path : List String) : Extends others path ↔ Extends lines path := by
  simp only [Extends, perm.mem_iff]

/-- In the trees that messages make, a path leads to the messages about its end if none is about a
place further on, and otherwise to a branch, and no other path leads anywhere.  So the messages that
are kept do not depend on the order in which they come, and all are kept where none is about a place
beyond that of another. -/
theorem collectSteps_maximal (errors : List (List Step × String)) :
    let lines := errors.map lineOf
    let trees := collectSteps errors
    (∀ path texts, LeadsTo trees path (.messages texts) ↔
        (∃ e ∈ lines, rooted e.1 = path) ∧ ¬Extends lines path ∧
          texts = messagesFor lines path) ∧
      (∀ path, (∃ branches, LeadsTo trees path (.branch branches)) ↔
        path ≠ [] ∧ Extends lines path) ∧
      (∀ path branches, LeadsTo trees path (.branch branches) →
        branches ≠ [] ∧ (Entries.keys branches).Nodup) ∧
      (Entries.keys trees).Nodup ∧
      (∀ others, others.Perm errors → ∀ path texts, LeadsTo trees path (.messages texts) →
        ∃ same, same.Perm texts ∧ LeadsTo (collectSteps others) path (.messages same)) ∧
      ((∀ e ∈ lines, ¬Extends lines (rooted e.1)) → ∀ e ∈ lines,
        ∃ texts, LeadsTo trees (rooted e.1) (.messages texts) ∧ e.2 ∈ texts) := by
  intro lines trees
  refine ⟨fun _ _ => leadsTo_messages_iff, fun _ => exists_leadsTo_branch_iff,
    fun _ _ => of_leadsTo_branch, distinct_collect lines [], ?_, ?_⟩
  · intro others perm path texts leads
    have permLines : (others.map lineOf).Perm lines := perm.map lineOf
    rcases leadsTo_messages_iff.mp leads with ⟨⟨e, listed, place⟩, last, rfl⟩
    refine ⟨messagesFor (others.map lineOf) path, (permLines.filter _).map _, ?_⟩
    exact leadsTo_messages_iff.mpr ⟨⟨e, permLines.mem_iff.mpr listed, place⟩,
      mt (extends_congr permLines path).mp last, rfl⟩
  · intro apart e listed
    refine ⟨_, leadsTo_messages_iff.mpr ⟨⟨e, listed, rfl⟩, apart e listed, rfl⟩, ?_⟩
    exact List.mem_map.mpr ⟨e, List.mem_filter.mpr ⟨listed, by simp⟩, rfl⟩

/-- Messages about a book: about the whole, about its author and the author's name, and about a page
that is given by its number and as a text. -/
def bookErrors : List (List Step × String) :=
  [([.name "author"], "is not known"), ([.name "pages", .index 1], "is empty"), ([], "is old"),
    ([.name "author", .name "name"], "is missing"), ([.name "pages", .name "1"], "is torn")]

/-- Both messages about the page are kept, also in another order, and the one about the author is
not. -/
theorem collectSteps_maximal_book :
    LeadsTo (collectSteps bookErrors) ["pages", "1"] (.messages ["is empty", "is torn"]) ∧
      (∃ branches, LeadsTo (collectSteps bookErrors) ["author"] (.branch branches)) ∧
      (∀ texts, ¬LeadsTo (collectSteps bookErrors) ["author"] (.messages texts)) ∧
      ∃ same, same.Perm ["is empty", "is torn"] ∧
        LeadsTo (collectSteps bookErrors.reverse) ["pages", "1"] (.messages same) := by
  have onPage : LeadsTo (collectSteps bookErrors) ["pages", "1"]
      (.messages ["is empty", "is torn"]) := by
    refine ((collectSteps_maximal bookErrors).1 _ _).mpr ⟨?_, ?_, ?_⟩
    · decide +kernel
    · unfold Extends
      decide +kernel
    · decide +kernel
  have beyond : Extends (bookErrors.map lineOf) ["author"] := by
    unfold Extends
    decide +kernel
  rcases collectSteps_maximal bookErrors with ⟨messages, branch, -, -, reordered, -⟩
  refine ⟨onPage, (branch _).mpr ⟨by simp, beyond⟩, ?_, ?_⟩
  · intro texts leads
    exact ((messages _ _).mp leads).2.1 beyond
  · exact reordered _ bookErrors.reverse_perm _ _ onPage

end ApiContract.ErrorTree
