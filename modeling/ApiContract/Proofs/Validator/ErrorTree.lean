import ApiContract.Proofs.Entries
import ApiContract.Validator.ErrorTree
import Mathlib.Data.List.Pairwise

/-!
# What stands in error trees

Entering a message changes what stands on the way to its place, and nothing
else.  So the trees that a list of messages makes have a branch wherever some
path leads further, the messages about a place wherever a path ends and none
leads further, and nothing anywhere else, in whatever order the messages come.
-/

namespace ApiContract.ErrorTree

/-- What a path leads to in a tree; messages lead nowhere. -/
def under : List String → Option ErrorTree → Option ErrorTree
  | [], tree => tree
  | step :: path, tree => under path ((children tree).get? step)

/-- What stands at a path. -/
def standing (trees : Entries String ErrorTree) (path : List String) : Option ErrorTree :=
  under path (some (.branch trees))

/-- The messages that stand at a path. -/
def messagesAt (trees : Entries String ErrorTree) (path : List String) : Option (List String) :=
  match standing trees path with
  | some (.messages texts) => some texts
  | _ => none

/-- A tree after one more message at the end of a path. -/
def grow (message : String) : List String → Option ErrorTree → ErrorTree
  | [], tree => addHere message tree
  | step :: path, tree =>
      .branch ((children tree).put step (grow message path ((children tree).get? step)))

@[simp]
theorem under_nil (tree : Option ErrorTree) : under [] tree = tree :=
  rfl

@[simp]
theorem under_cons (step : String) (path : List String) (tree : Option ErrorTree) :
    under (step :: path) tree = under path ((children tree).get? step) :=
  rfl

/-- Nothing stands under nothing. -/
theorem under_none (path : List String) : under path none = none := by
  induction path with
  | nil => rfl
  | cons step path ih => simpa [children] using ih

/-- A message at a place changes none of the trees below it. -/
@[simp]
theorem children_addHere (message : String) (tree : Option ErrorTree) :
    children (some (addHere message tree)) = children tree := by
  cases tree with
  | none => rfl
  | some tree => cases tree <;> rfl

/-- Entering a message is growing the tree of which the trees are the branches. -/
theorem branch_enter (message : String) {path : List String} (rooted : path ≠ [])
    (trees : Entries String ErrorTree) :
    ErrorTree.branch (enter message path trees) = grow message path (some (.branch trees)) := by
  induction path generalizing trees with
  | nil => exact absurd rfl rooted
  | cons step path ih =>
      cases path with
      | nil => rfl
      | cons next path =>
          rw [enter, grow, children, ih (by simp), grow, grow]
          · rfl
          · simp

/-- On the way to its place, a message grows what stood there before. -/
theorem under_grow_append (message : String) (path rest : List String)
    (tree : Option ErrorTree) :
    under path (some (grow message (path ++ rest) tree)) =
      some (grow message rest (under path tree)) := by
  induction path generalizing tree with
  | nil => rfl
  | cons step path ih =>
      rw [List.cons_append, grow, under_cons, children, Entries.get?_put_self, ih, under_cons]

/-- What does not stand on the way to the place of a message stays as it is. -/
theorem under_grow_of_not_isPrefix (message : String) {path place : List String}
    (aside : ¬path <+: place) (tree : Option ErrorTree) :
    under path (some (grow message place tree)) = under path tree := by
  induction path generalizing place tree with
  | nil => exact absurd List.nil_prefix aside
  | cons step path ih =>
      cases place with
      | nil => rw [grow, under_cons, children_addHere, under_cons]
      | cons other place =>
          rw [grow, under_cons, children, under_cons]
          by_cases same : step = other
          · subst same
            have asideHere : ¬path <+: place := by
              simpa [List.cons_prefix_cons] using aside
            rw [Entries.get?_put_self, ih asideHere]
          · rw [Entries.get?_put_of_ne _ _ same]

/-! ### Trees of a list of messages -/

theorem rooted_ne_nil (path : List String) : rooted path ≠ [] := by
  cases path <;> simp [rooted]

theorem collect_concat (errors : List (List String × String)) (e : List String × String) :
    collect (errors ++ [e]) = enter e.2 (rooted e.1) (collect errors) := by
  simp [collect, List.foldl_append]

theorem standing_collect_concat (errors : List (List String × String))
    (e : List String × String) (path : List String) :
    standing (collect (errors ++ [e])) path =
      under path (some (grow e.2 (rooted e.1) (some (.branch (collect errors))))) := by
  rw [standing, collect_concat, branch_enter _ (rooted_ne_nil _)]

/-- The messages of a list about one place, in order. -/
def messagesFor (errors : List (List String × String)) (path : List String) : List String :=
  (errors.filter fun e => rooted e.1 == path).map (·.2)

/-- Some path of a list leads to a place and further. -/
def Extends (errors : List (List String × String)) (path : List String) : Prop :=
  ∃ e ∈ errors, path <+: rooted e.1 ∧ path ≠ rooted e.1

theorem extends_concat_iff {errors : List (List String × String)} {e : List String × String}
    {path : List String} :
    Extends (errors ++ [e]) path ↔
      Extends errors path ∨ path <+: rooted e.1 ∧ path ≠ rooted e.1 := by
  simp [Extends, List.mem_append, or_and_right, exists_or]

theorem messagesFor_concat (errors : List (List String × String)) (e : List String × String)
    (path : List String) :
    messagesFor (errors ++ [e]) path =
      messagesFor errors path ++ if rooted e.1 = path then [e.2] else [] := by
  by_cases same : rooted e.1 = path <;> simp [messagesFor, same]

/-- What a list of messages makes of a place: a branch with something in it where some
path leads further, and otherwise the messages about it, if there are any. -/
structure Shows (errors : List (List String × String)) (path : List String)
    (tree : Option ErrorTree) : Prop where
  branch : Extends errors path → ∃ first rest, tree = some (.branch (first :: rest))
  messages : ¬Extends errors path →
    tree = if messagesFor errors path = [] then none else some (.messages (messagesFor errors path))

/-- One more message about a place is added to those about it, and is dropped where a
path leads further. -/
theorem Shows.here {errors : List (List String × String)} {e : List String × String}
    {tree : Option ErrorTree} (shows : Shows errors (rooted e.1) tree) :
    Shows (errors ++ [e]) (rooted e.1) (some (addHere e.2 tree)) := by
  have same : Extends (errors ++ [e]) (rooted e.1) ↔ Extends errors (rooted e.1) := by
    simp [extends_concat_iff]
  constructor
  · intro further
    obtain ⟨first, rest, rfl⟩ := shows.branch (same.mp further)
    exact ⟨first, rest, rfl⟩
  · intro last
    rw [shows.messages (fun further => last (same.mpr further)), messagesFor_concat]
    by_cases none : messagesFor errors (rooted e.1) = [] <;> simp [none, addHere]

/-- A message further on makes a branch of every place on the way. -/
theorem Shows.further {errors : List (List String × String)} {e : List String × String}
    {path : List String} {step : String} {rest : List String}
    (place : path ++ step :: rest = rooted e.1) (tree : Option ErrorTree) :
    Shows (errors ++ [e]) path (some (grow e.2 (step :: rest) tree)) := by
  have longer : path ≠ rooted e.1 := by
    intro same
    simp [← place] at same
  have extended : Extends (errors ++ [e]) path :=
    extends_concat_iff.mpr (Or.inr ⟨⟨_, place⟩, longer⟩)
  constructor
  · intro _
    obtain ⟨first, others, equal⟩ := List.exists_cons_of_ne_nil
      (Entries.putBy_ne_nil (· == ·) step (grow e.2 rest ((children tree).get? step))
        (children tree))
    exact ⟨first, others, by rw [grow, Entries.put, equal]⟩
  · intro last
    exact absurd extended last

/-- A message elsewhere changes nothing. -/
theorem Shows.aside {errors : List (List String × String)} {e : List String × String}
    {path : List String} (aside : ¬path <+: rooted e.1) {tree : Option ErrorTree}
    (shows : Shows errors path tree) : Shows (errors ++ [e]) path tree := by
  have other : rooted e.1 ≠ path := by
    rintro rfl
    exact aside (List.prefix_refl _)
  have same : Extends (errors ++ [e]) path ↔ Extends errors path := by
    simp [extends_concat_iff, aside]
  constructor
  · intro further
    exact shows.branch (same.mp further)
  · intro last
    rw [shows.messages (fun further => last (same.mpr further)), messagesFor_concat, if_neg other,
      List.append_nil]

/-- What stands at a place after a list of messages was entered. -/
theorem shows_standing_collect (errors : List (List String × String)) {path : List String}
    (nonempty : path ≠ []) : Shows errors path (standing (collect errors) path) := by
  induction errors using List.reverseRecOn with
  | nil =>
      cases path with
      | nil => exact absurd rfl nonempty
      | cons step path =>
          constructor
          · rintro ⟨e, member, -⟩
            simp at member
          · intro _
            simp [standing, collect, children, messagesFor, under_none]
  | append_singleton errors e ih =>
      rw [standing_collect_concat]
      by_cases onTheWay : path <+: rooted e.1
      · rcases onTheWay with ⟨rest, place⟩
        rw [← place, under_grow_append]
        cases rest with
        | nil =>
            rw [List.append_nil] at place
            subst place
            exact ih.here
        | cons step rest => exact Shows.further place _
      · rw [under_grow_of_not_isPrefix _ onTheWay]
        exact ih.aside onTheWay

/-- Messages stand at a place exactly if it has some and no path leads further. -/
theorem messagesAt_collect_eq_some_iff {errors : List (List String × String)}
    {path texts : List String} (nonempty : path ≠ []) :
    messagesAt (collect errors) path = some texts ↔
      ¬Extends errors path ∧ messagesFor errors path ≠ [] ∧ messagesFor errors path = texts := by
  have shows := shows_standing_collect errors nonempty
  rw [messagesAt]
  by_cases further : Extends errors path
  · obtain ⟨first, rest, equal⟩ := shows.branch further
    simp [equal, further]
  · rw [shows.messages further]
    by_cases none : messagesFor errors path = []
    · simp [none]
    · simp [none, further]

/-! ### Lists in which no path leads further than another -/

/-- Neither path is, or leads on from, the other. -/
def Apart (p q : List String) : Prop :=
  ¬p <+: q ∧ ¬q <+: p

theorem rooted_of_ne_nil {path : List String} (nonempty : path ≠ []) : rooted path = path := by
  cases path with
  | nil => exact absurd rfl nonempty
  | cons step path => rfl

/-- A message stands at a place exactly if it is about this place and no path leads further. -/
theorem exists_messagesAt_collect_iff {errors : List (List String × String)}
    (nonempty : ∀ e ∈ errors, e.1 ≠ []) {path : List String} (step : path ≠ []) {text : String} :
    (∃ texts, messagesAt (collect errors) path = some texts ∧ text ∈ texts) ↔
      (path, text) ∈ errors ∧ ∀ e ∈ errors, path <+: e.1 → path = e.1 := by
  have further : Extends errors path ↔ ∃ e ∈ errors, path <+: e.1 ∧ path ≠ e.1 := by
    refine exists_congr fun e => and_congr_right fun listed => ?_
    rw [rooted_of_ne_nil (nonempty e listed)]
  have here : text ∈ messagesFor errors path ↔ (path, text) ∈ errors := by
    rw [messagesFor, List.mem_map]
    constructor
    · rintro ⟨e, kept, rfl⟩
      obtain ⟨listed, place⟩ := List.mem_filter.mp kept
      rw [rooted_of_ne_nil (nonempty e listed), beq_iff_eq] at place
      exact place ▸ listed
    · intro listed
      refine ⟨_, List.mem_filter.mpr ⟨listed, ?_⟩, rfl⟩
      rw [rooted_of_ne_nil step, beq_iff_eq]
  rw [← here]
  simp only [messagesAt_collect_eq_some_iff step, further, not_exists, not_and, not_not]
  constructor
  · rintro ⟨texts, ⟨last, -, rfl⟩, listed⟩
    exact ⟨listed, last⟩
  · rintro ⟨listed, last⟩
    exact ⟨_, ⟨last, List.ne_nil_of_mem listed, rfl⟩, listed⟩

/-- Where paths are apart, each is that of one message only. -/
theorem messagesFor_of_apart {errors : List (List String × String)}
    (nonempty : ∀ e ∈ errors, e.1 ≠ []) (apart : errors.Pairwise fun d e => Apart d.1 e.1)
    {path : List String} {message : String} (member : (path, message) ∈ errors) :
    messagesFor errors path = [message] := by
  induction errors with
  | nil => simp at member
  | cons first rest ih =>
      obtain ⟨firstApart, restApart⟩ := List.pairwise_cons.mp apart
      obtain ⟨firstNonempty, restNonempty⟩ := List.forall_mem_cons.mp nonempty
      rcases List.mem_cons.mp member with rfl | later
      · have others : messagesFor rest path = [] := by
          rw [messagesFor, List.map_eq_nil_iff, List.filter_eq_nil_iff]
          intro e listed same
          rw [rooted_of_ne_nil (restNonempty e listed), beq_iff_eq] at same
          exact (firstApart e listed).1 (same ▸ List.prefix_refl _)
        rw [messagesFor] at others
        simp [messagesFor, rooted_of_ne_nil firstNonempty, others]
      · have different : (rooted first.1 == path) = false := by
          rw [rooted_of_ne_nil firstNonempty, beq_eq_false_iff_ne]
          intro same
          exact (firstApart _ later).1 (same ▸ List.prefix_refl _)
        have others := ih restNonempty restApart later
        rw [messagesFor] at others
        simp [messagesFor, different, others]

/-- Where no path leads to the place of another, every message stands alone at its
place, and nothing stands elsewhere. -/
theorem messagesAt_collect_of_apart {errors : List (List String × String)}
    (nonempty : ∀ e ∈ errors, e.1 ≠ []) (apart : errors.Pairwise fun d e => Apart d.1 e.1)
    {path texts : List String} :
    messagesAt (collect errors) path = some texts ↔
      ∃ message, (path, message) ∈ errors ∧ texts = [message] := by
  by_cases root : path = []
  · subst root
    constructor
    · intro found
      simp [messagesAt, standing] at found
    · rintro ⟨message, member, -⟩
      exact absurd rfl (nonempty _ member)
  · rw [messagesAt_collect_eq_some_iff root]
    constructor
    · rintro ⟨-, some, rfl⟩
      obtain ⟨message, listed⟩ := List.exists_mem_of_ne_nil _ some
      obtain ⟨e, eListed, rfl⟩ := List.mem_map.mp listed
      obtain ⟨member, same⟩ := List.mem_filter.mp eListed
      rw [rooted_of_ne_nil (nonempty e member), beq_iff_eq] at same
      subst same
      exact ⟨e.2, member, messagesFor_of_apart nonempty apart member⟩
    · rintro ⟨message, member, rfl⟩
      have alone := messagesFor_of_apart nonempty apart member
      refine ⟨?_, by simp [alone], alone⟩
      rintro ⟨e, listed, leads, further⟩
      rw [rooted_of_ne_nil (nonempty e listed)] at leads further
      have symmetric : Std.Symm fun d e : List String × String => Apart d.1 e.1 :=
        ⟨fun _ _ separate => ⟨separate.2, separate.1⟩⟩
      have separate := apart.forall member listed (fun same => further (by rw [← same]))
      exact separate.1 leads

end ApiContract.ErrorTree
