import ApiContract.Proofs.Document.Failure
import ApiContract.Proofs.Document.MadeOf
import ApiContract.Proofs.Status
import ApiContract.Proofs.Value.KeysShown

/-!
# Documents whose keys can be displayed

What is declared may hold dictionaries with keys of any kind, in allowed
values, in members of unions and in the descriptions of endpoints.  Where all
of these keys can be displayed, and the members of unions as well, every schema
can be compiled, and every key of the document can be displayed.
-/

namespace ApiContract

/-- The union members of a node can be displayed, and so can all keys in them and in the allowed
values. -/
structure Facets.Displayable (f : Facets) : Prop where
  members : ∀ m ∈ f.members, m.normalized?.isSome = true ∧ m.KeysShown
  allowed : ∀ values, f.allowed = some values → ∀ v ∈ values, v.KeysShown

/-- All that stands in a tree of nodes can be displayed. -/
def Node.Displayable (n : Node) : Prop :=
  ∀ m, n.Contains m → m.facets.Displayable

theorem Node.Displayable.property {n : Node} (displayable : n.Displayable) {name : String}
    {slot : Slot Node} (member : (name, slot) ∈ n.properties) : slot.content.Displayable :=
  fun m inside => displayable m (.property member inside)

/-- Keys that can be displayed stay so from parts to the whole. -/
theorem Value.composes_keysShown :
    Value.Composes (fun k => k.display?.isSome = true) Value.KeysShown where
  null := keysShown_null
  bool := keysShown_bool
  str := keysShown_str
  list := keysShown_list_iff.mpr
  dict := keysShown_dict_iff.mpr
  text _ := rfl

/-! ### Schemas -/

namespace Node

variable {registered : String → Bool} {n : Node}

/-- A node without properties can be displayed if what it holds itself can. -/
theorem displayable_leaf {f : Facets} (displayable : f.Displayable) : (mk f []).Displayable :=
  forall_contains_iff.mpr ⟨displayable, fun _ _ member => absurd member List.not_mem_nil⟩

/-- Schemas of properties can be compiled if those of all of them can. -/
theorem compilableAll_iff {properties : List (String × Slot Node)} :
    compilableAll properties = true ↔
      ∀ name slot, (name, slot) ∈ properties → slot.content.compilable = true := by
  induction properties with
  | nil => simp [compilableAll]
  | cons property rest ih =>
      rcases property with ⟨name, required, n⟩
      rw [compilableAll, Bool.and_eq_true, ih]
      constructor
      · rintro ⟨head, tail⟩ other slot member
        rcases List.mem_cons.mp member with equal | later
        · cases equal
          exact head
        · exact tail other slot later
      · intro all
        exact ⟨all name ⟨required, n⟩ List.mem_cons_self,
          fun other slot later => all other slot (List.mem_cons_of_mem _ later)⟩

/-- What can be displayed can be compiled. -/
theorem Displayable.compilable (displayable : n.Displayable) : n.compilable = true := by
  induction n with
  | mk f properties ih =>
      have own : f.Displayable := displayable _ (.here _)
      have members : (f.members.all fun m => m.normalized?.isSome) = true :=
        List.all_eq_true.mpr fun m member => (own.members m member).1
      have below : compilableAll properties = true :=
        compilableAll_iff.mpr fun name slot member =>
          ih name slot member (displayable.property member)
      rw [Node.compilable, members, below, Bool.or_true, Bool.or_true, Bool.and_self]

theorem Displayable.madeOf (displayable : n.Displayable) : n.MadeOf Value.KeysShown :=
  fun m inside =>
    ⟨fun v member => ((displayable m inside).members v member).2, (displayable m inside).allowed⟩

end Node

/-! ### Operations -/

theorem Value.isSome_display?_of_isText {v : Value} (text : v.isText = true) :
    v.display?.isSome = true := by
  cases v with
  | str | tag | unpaired => rfl
  | _ => simp [isText] at text

namespace Endpoint

variable {registered : String → Bool} {e : Endpoint}

/-- All that stands in an endpoint can be displayed. -/
structure Displayable (e : Endpoint) : Prop where
  nodes : e.AllNodes Node.Displayable
  description : e.description.KeysShown
  keys : ∀ key ∈ e.statusKeys, Status.Readable key

theorem Displayable.compilable (displayable : e.Displayable) : e.Compilable :=
  displayable.nodes.imp fun _ => Node.Displayable.compilable

/-- All nodes of an endpoint are those that stand in it. -/
theorem AllNodes.shows {motive : Node → Prop} (all : e.AllNodes motive) {n : Node}
    (shows : e.Shows n) : motive n := by
  cases shows with
  | parameter declared listed =>
      obtain ⟨_, equal, nodes⟩ := all.parameters
      cases equal.symm.trans declared
      exact nodes _ listed
  | body declared =>
      obtain ⟨slot, equal, node⟩ := all.body _ declared
      cases equal
      exact node
  | response declared listed standing =>
      obtain ⟨_, equal, nodes⟩ := all.responses
      cases equal.symm.trans declared
      obtain ⟨other, equal, node⟩ := nodes _ listed
      rw [equal] at standing
      cases standing
      exact node

/-- The code of a key that can be read has a text. -/
theorem isSome_display?_code {key : Value} (readable : Status.Readable key) {code : Int}
    (resolved : Status.resolve key = .ok code) : (Value.int code).display?.isSome = true := by
  obtain ⟨text, -, ⟨other, otherEq, short⟩ | failed⟩ := Status.resolve_cases readable
  · cases otherEq.symm.trans resolved
    simp [Value.display?, Value.quoted?, Number.intText?, short]
  · simp [failed] at resolved

/-- All keys in the description of an endpoint can be displayed if all can that are declared in
it: the codes have texts because the keys that they are read from can be read. -/
theorem Displayable.keysShown_describe (displayable : e.Displayable) {operation : Mapping}
    (described : e.describe registered = .ok operation) : ∀ f ∈ operation, f.2.KeysShown := by
  refine holds_describe Value.composes_keysShown (fun n shows =>
    (displayable.nodes.shows shows).madeOf) displayable.description ?_ described
  intro responses declared response listed code resolved
  refine isSome_display?_code (displayable.keys _ ?_) resolved
  rw [statusKeys, declared]
  exact List.mem_map_of_mem listed

end Endpoint

/-! ### Documents -/

namespace Registry

variable {registered : String → Bool} {r : Registry}

/-- All that is declared in a registry can be displayed. -/
structure Displayable (r : Registry) : Prop where
  nodes : ∀ n, r.Declares n → n.Displayable
  descriptions : ∀ e ∈ r.endpoints, e.description.KeysShown
  keys : ∀ e ∈ r.endpoints, ∀ key ∈ e.statusKeys, Status.Readable key

theorem Displayable.endpoint (displayable : r.Displayable) (built : r.Built) :
    ∀ e ∈ r.endpoints, e.Displayable :=
  fun e member => ⟨built.allNodes displayable.nodes e member, displayable.descriptions e member,
    displayable.keys e member⟩

/-- The components are compiled if they can be displayed, and then so can their schemas. -/
theorem Displayable.exists_schemas (displayable : r.Displayable) :
    ∃ schemas, r.schemas = .ok schemas ∧ (schemasValue schemas).KeysShown := by
  have nodes : ∀ c ∈ r.components, c.node.Displayable := fun c member =>
    displayable.nodes _ (.component member)
  have compiled : List.Forall₂ (fun c entry => c.name = entry.1 ∧
      c.node.schema? r.has = .ok entry.2) r.components
      (r.components.map fun c => (c.name, c.node.schema r.has)) := by
    rw [List.forall₂_map_right_iff, List.forall₂_same]
    exact fun c member =>
      ⟨rfl, Node.schema?_eq_ok_iff.mpr ⟨(nodes c member).compilable, rfl⟩⟩
  have schemasEq : r.schemas = .ok _ := enterComponents_eq_ok_iff.mpr ⟨_, compiled, rfl⟩
  exact ⟨_, schemasEq, holds_schemasValue Value.composes_keysShown
    (fun c member => (nodes c member).madeOf) schemasEq⟩

/-- Where all that is declared can be displayed, there is a document unless the operations cannot
be compiled. -/
theorem Displayable.failure?_document (displayable : r.Displayable) (built : r.Built)
    (typed : ∀ e ∈ r.endpoints, e.Typed) (info : DocumentInfo) :
    Attempt.failure? (r.document info) = Attempt.failure? r.paths := by
  cases pathsEq : r.paths with
  | error f =>
      rw [document, pathsEq]
      rfl
  | ok paths =>
      obtain ⟨schemas, schemasEq, schemasShown⟩ := displayable.exists_schemas
      have pathsShown : (pathsValue paths).KeysShown := by
        refine holds_pathsValue Value.composes_keysShown (fun e declared given => ?_)
          (fun e declared verbs items verb listed => ?_)
          (fun e declared operation => (displayable.endpoint built e declared).keysShown_describe)
          pathsEq
        · exact Value.isSome_display?_of_isText ((typed e declared).isText_path given)
        · obtain ⟨own, operations, texts⟩ := (typed e declared).operations
          rw [operations, Value.items?, Option.some.injEq] at items
          exact Value.isSome_display?_of_isText (texts verb (items ▸ listed))
      have shown := holds_sections Value.composes_keysShown info pathsShown schemasShown
      obtain ⟨document, documentEq⟩ :=
        Option.isSome_iff_exists.mp (Value.isSome_withTextKeys?_iff.mpr shown)
      rw [document_eq_ok_iff.mpr ⟨paths, schemas, pathsEq, schemasEq, documentEq⟩]
      rfl

end Registry

end ApiContract
