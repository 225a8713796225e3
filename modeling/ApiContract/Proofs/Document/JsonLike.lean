import ApiContract.Proofs.Document.Compilation
import ApiContract.Proofs.Document.Rendering
import ApiContract.Proofs.Value.JsonLike
import ApiContract.Proofs.Yaml.Writing

/-!
# Documents of declarations like JSON

Where the values that are declared are like those of JSON, all of them can be
displayed, so an empty report is enough for a document, and the document can be
written in both formats.
-/

namespace ApiContract

/-- What is made of null, booleans, texts and numbers has a text in every format. -/
theorem Format.exists_render {document : Value} (primitive : document.Leaves Value.isPrimitive)
    (recorded : document.Recorded) (format : Format) :
    ∃ text, format.render document = .ok text := by
  cases format with
  | json => exact ⟨_, by rw [render, Json.written_eq_ok primitive recorded, Attempt.map_ok]⟩
  | yaml =>
      rcases Yaml.exists_text primitive recorded with ⟨text, textEq⟩
      exact ⟨.str text, by rw [render, textEq, Attempt.map_ok]⟩

/-- It is a text of characters, unless it is JSON for a document in which a text is none. -/
theorem Format.exists_eq_str {document text : Value} {format : Format}
    (whole : format = .json → document.Throughout Value.isWhole)
    (rendered : format.render document = .ok text) : ∃ s, text = .str s := by
  cases format with
  | json =>
      rw [render, Attempt.map_eq_ok_iff] at rendered
      obtain ⟨codes, written, rfl⟩ := rendered
      rw [Json.written] at written
      split at written
      · cases written
        exact ⟨_, Json.ofCodes_write (whole rfl) ['\n']⟩
      · cases written
  | yaml =>
      obtain ⟨s, -, rfl⟩ := Attempt.map_eq_ok_iff.mp rendered
      exact ⟨s, rfl⟩

namespace Registry

variable {r : Registry}

/-- The values that are declared in a registry are like those of JSON, descriptions are texts, and
response keys can be read. -/
structure JsonLike (r : Registry) : Prop where
  nodes : ∀ n, r.Declares n → n.MadeOf Value.JsonLike
  descriptions : ∀ e ∈ r.endpoints, e.description.isString = true
  keys : ∀ e ∈ r.endpoints, ∀ key ∈ e.statusKeys, Status.Readable key

/-- What is like JSON can be displayed. -/
theorem JsonLike.displayable (like : r.JsonLike) : r.Displayable where
  nodes n declared m inside := by
    have made := like.nodes n declared m inside
    exact ⟨fun v member => ⟨(made.members v member).isSome_normalized?,
      (made.members v member).keysShown⟩,
      fun values allowed v member => (made.allowed values allowed v member).keysShown⟩
  descriptions e member := by
    rcases Value.leaf_of_isString (like.descriptions e member) with ⟨noList, noDict⟩
    exact Value.keysShown_of_leaf noList noDict
  keys := like.keys

/-- The leaves of what is like JSON are null, booleans, texts and numbers. -/
theorem JsonLike.madeOfLeaves (like : r.JsonLike) (built : r.Built) :
    r.MadeOfLeaves Value.isPrimitive := by
  have leaves : ∀ n, r.Declares n → n.MadeOf (Value.Leaves Value.isPrimitive) := by
    intro n declared m inside
    have made := like.nodes n declared m inside
    exact ⟨fun v member => (made.members v member).leaves,
      fun values allowed v member => (made.allowed values allowed v member).leaves⟩
  constructor
  · intro n shows
    cases shows with
    | component member => exact leaves _ (.component member)
    | endpoint member inside => exact (built.allNodes leaves _ member).shows inside
  · intro e member
    have string := like.descriptions e member
    rcases Value.leaf_of_isString string with ⟨noList, noDict⟩
    exact (Value.leaves_iff_of_leaf noList noDict).mpr (Value.isPrimitive_of_isString string)

/-- A document of what is like JSON can be written in every format. -/
theorem JsonLike.exists_render (like : r.JsonLike) (built : r.Built) {info : DocumentInfo}
    {document : Value} (documentEq : r.document info = .ok document) (format : Format) :
    ∃ text, format.render document = .ok text := by
  have composes := @Value.composes_leaves Value.isPrimitive rfl (fun _ => rfl) fun _ => rfl
  rcases (like.madeOfLeaves built).document composes documentEq with ⟨primitive, recorded⟩
  exact format.exists_render primitive recorded

end Registry

end ApiContract
