import ApiContract.Document.Text
import ApiContract.Proofs.Document.MadeOf
import ApiContract.Proofs.Json.Reading
import ApiContract.Proofs.Json.Writing

/-!
# Documents in JSON

Where what is declared is made of null, booleans, texts and whole numbers that
have a text, the document is written as JSON, and whoever reads this JSON gets
the document and nothing else.  So no two such documents are written alike.
-/

namespace ApiContract

/-- Being made of leaves of some kind goes from parts to the whole, under keys of every kind. -/
theorem Value.composes_leaves {kind : Value → Bool} (null : kind .null = true)
    (bool : ∀ b, kind (.bool b) = true) (str : ∀ s, kind (.str s) = true) :
    Value.Composes (fun _ => True) (Value.Leaves kind) where
  null := leaves_null_iff.mpr null
  bool b := leaves_bool_iff.mpr (bool b)
  str s := leaves_str_iff.mpr (str s)
  list := leaves_list_iff.mpr
  dict each := leaves_dict_iff.mpr fun e member => (each e member).2
  text _ := trivial

/-- Having no text that is none of characters goes from parts to the whole, under keys that are
no such text. -/
theorem Value.composes_whole :
    Value.Composes (fun k => k.isWhole = true) (Value.Throughout Value.isWhole) where
  null := throughout_null_iff.mpr rfl
  bool _ := throughout_bool_iff.mpr rfl
  str _ := throughout_str_iff.mpr rfl
  list := throughout_list_iff.mpr
  dict := throughout_dict_iff.mpr
  text _ := rfl

namespace Registry

variable {r : Registry}

/-- The union members, the allowed values and the descriptions that are declared in a registry are
made of leaves of some kind. -/
structure MadeOfLeaves (kind : Value → Bool) (r : Registry) : Prop where
  nodes : ∀ n, r.Shows n → n.MadeOf (Value.Leaves kind)
  descriptions : ∀ e ∈ r.endpoints, e.description.Leaves kind

/-- The leaves of a document are of the kind of those that are declared. -/
theorem MadeOfLeaves.document {kind : Value → Bool}
    (composes : Value.Composes (fun _ => True) (Value.Leaves kind)) (made : r.MadeOfLeaves kind)
    {info : DocumentInfo} {document : Value} (documentEq : r.document info = .ok document) :
    document.Leaves kind ∧ document.Recorded := by
  obtain ⟨paths, schemas, pathsEq, schemasEq, shown⟩ := document_eq_ok_iff.mp documentEq
  have pathsLeaves : (pathsValue paths).Leaves kind := by
    refine holds_pathsValue composes (by simp) (by simp) (fun e member operation described => ?_)
      pathsEq
    exact Endpoint.holds_describe composes (fun n inside => made.nodes n (.endpoint member inside))
      (made.descriptions e member) (by simp) described
  have schemasLeaves : (schemasValue schemas).Leaves kind :=
    holds_schemasValue composes (fun c member => made.nodes _ (.component member)) schemasEq
  have leaves := holds_sections composes info pathsLeaves schemasLeaves
  exact ⟨leaves.withTextKeys shown, Value.recorded_of_withTextKeys? shown⟩

/-- No text that is none of characters is declared in a registry: not as a path, a verb or a
description, and not in the union members and the allowed values, nor as a key in these. -/
structure Whole (r : Registry) : Prop where
  nodes : ∀ n, r.Shows n → n.MadeOf (Value.Throughout Value.isWhole)
  descriptions : ∀ e ∈ r.endpoints, e.description.Throughout Value.isWhole
  paths : ∀ e ∈ r.endpoints, e.path.isWhole = true
  verbs : ∀ e ∈ r.endpoints, ∀ verbs, e.operations.items? = some verbs →
    ∀ verb ∈ verbs, verb.isWhole = true

/-- Then there is none in the document. -/
theorem Whole.document (whole : r.Whole) {info : DocumentInfo} {document : Value}
    (documentEq : r.document info = .ok document) : document.Throughout Value.isWhole := by
  obtain ⟨paths, schemas, pathsEq, schemasEq, shown⟩ := document_eq_ok_iff.mp documentEq
  have composes := Value.composes_whole
  have pathsWhole : (pathsValue paths).Throughout Value.isWhole := by
    refine holds_pathsValue composes (fun e member _ => whole.paths e member) whole.verbs
      (fun e member operation described => ?_) pathsEq
    exact Endpoint.holds_describe composes (fun n inside => whole.nodes n (.endpoint member inside))
      (whole.descriptions e member) (fun _ _ _ _ _ _ => rfl) described
  have schemasWhole : (schemasValue schemas).Throughout Value.isWhole :=
    holds_schemasValue composes (fun c member => whole.nodes _ (.component member)) schemasEq
  exact (holds_sections composes info pathsWhole schemasWhole).withTextKeys shown

/-- All that is declared in a registry is made of null, booleans, texts of characters and whole
numbers that have a text, in lists and dictionaries, and descriptions are texts. -/
structure Literal (r : Registry) : Prop where
  nodes : ∀ n, r.Shows n → n.MadeOf (Value.Leaves Value.isLiteral)
  descriptions : ∀ e ∈ r.endpoints, ∃ s, e.description = .str s
  whole : r.Whole

theorem Literal.madeOfLeaves (literal : r.Literal) : r.MadeOfLeaves Value.isLiteral := by
  refine ⟨literal.nodes, fun e member => ?_⟩
  obtain ⟨s, description⟩ := literal.descriptions e member
  exact description ▸ Value.leaves_str_iff.mpr rfl

theorem Literal.document (literal : r.Literal) {info : DocumentInfo} {document : Value}
    (documentEq : r.document info = .ok document) :
    document.Leaves Value.isLiteral ∧ document.Recorded :=
  literal.madeOfLeaves.document (Value.composes_leaves rfl (fun _ => rfl) fun _ => rfl) documentEq

/-- A document of literals is written as JSON for it. -/
theorem exists_render_json {document : Value} (literal : document.Leaves Value.isLiteral)
    (recorded : document.Recorded) (whole : document.Throughout Value.isWhole) :
    ∃ text, Format.json.render document = .ok (.str text) ∧ Json.Denotes text document := by
  have primitive : document.Leaves Value.isPrimitive := fun w inside noList noDict =>
    Value.isPrimitive_of_isLiteral (literal w inside noList noDict)
  have lineEnd : ∀ c ∈ ['\n'], Json.isBlank c = true := by simp [Json.isBlank]
  have denotes : Json.Denotes
      (String.ofList (Json.write (Json.charStyle false) 0 [] document ++ ['\n'])) document :=
    Json.denotes_write literal recorded whole lineEnd
  refine ⟨_, ?_, denotes⟩
  rw [Format.render, Json.written_eq_ok primitive recorded, Attempt.map_ok]
  exact congrArg Except.ok (Json.ofCodes_write whole ['\n'])

/-- A component whose values are null, a number, a text with a quote in it and a dictionary under a
number. -/
def assorted : Registry :=
  ⟨[⟨"Assorted", .mk { Facets.blank with enumeration := some [.null, .int (-20),
    .str "say \x22so\x22\n", .dict [(.int 1, .list [.bool true, .list []])]] } []⟩], []⟩

/-- The component is made of its one node. -/
theorem eq_of_shows_assorted {n : Node} (shows : assorted.Shows n) :
    n = .mk { Facets.blank with enumeration := some [.null, .int (-20),
      .str "say \x22so\x22\n", .dict [(.int 1, .list [.bool true, .list []])]] } [] := by
  cases shows with
  | component member =>
      obtain rfl := List.mem_singleton.mp member
      rfl
  | endpoint member => cases member

theorem whole_assorted : assorted.Whole := by
  refine ⟨fun n shows => ?_, by simp [assorted], by simp [assorted], by simp [assorted]⟩
  rw [eq_of_shows_assorted shows]
  apply Node.madeOf_leaf
  constructor
  · simp [Facets.blank, Facets.members]
  · simp [Facets.blank, Facets.allowed, Value.isWhole]

end Registry

end ApiContract
