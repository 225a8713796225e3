import ApiContract.Proofs.Attempt
import ApiContract.Proofs.Checked
import ApiContract.Proofs.Schema.Tree
import ApiContract.Proofs.Value.Parts
import ApiContract.Registry.Place

/-!
# Declared nodes

Properties are stored by name, so no name stands for two properties of one node, and
no option puts a mark in the place of a shape.  This holds of the nodes that are read
from options, and declaring further properties keeps it, whether or not it fails in
between.
-/

namespace ApiContract

/-! ### Storing properties -/

/-- Storing a property keeps names distinct. -/
theorem Node.Distinct.putProperty {n : Node} (distinct : n.Distinct) {slot : Slot Node}
    (slotDistinct : slot.content.Distinct) (name : String) :
    (n.putProperty name slot).Distinct := by
  rw [Node.putProperty, Node.distinct_mk_iff]
  constructor
  · exact Entries.nodup_keys_put _ _ _ distinct.names
  · intro p member
    rcases Entries.mem_put member with earlier | stored
    · exact distinct.property earlier
    · rw [stored]
      exact slotDistinct

/-- Storing a proper property keeps a node proper. -/
theorem Node.Proper.putProperty {n : Node} (proper : n.Proper) {slot : Slot Node}
    (slotProper : slot.content.Proper) (name : String) : (n.putProperty name slot).Proper := by
  rw [Node.putProperty, Node.proper_mk_iff]
  refine ⟨proper.mark, Entries.nodup_keys_put _ _ _ proper.distinct.names, ?_⟩
  intro p member
  rcases Entries.mem_put member with earlier | stored
  · exact proper.property earlier
  · rw [stored]
    exact slotProper

/-! ### Changing a node at a depth -/

section ModifyAt

variable {f : Node → Node} {n : Node}

/-- What properties have from their node and give to it is kept at a node if a change at a
depth keeps it there. -/
theorem Node.modifyAt_keeps {motive : Node → Prop}
    (below : ∀ (n : Node) name slot, motive n → (name, slot) ∈ n.properties →
      motive slot.content)
    (stored : ∀ (n : Node) name slot, motive n → motive slot.content →
      motive (n.putProperty name slot))
    (keeps : ∀ n, motive n → motive (f n)) (names : List String) (holds : motive n) :
    motive (Node.modifyAt f names n) := by
  induction names generalizing n with
  | nil => exact keeps n holds
  | cons name names ih =>
      rw [Node.modifyAt]
      split
      · rename_i slot found
        exact stored n name _ holds (ih (below n name slot holds (Entries.mem_of_get? found)))
      · exact holds

/-- Changing the node that names lead to keeps names distinct if the change does. -/
theorem Node.Distinct.modifyAt (keeps : ∀ n : Node, n.Distinct → (f n).Distinct)
    (names : List String) (distinct : n.Distinct) : (Node.modifyAt f names n).Distinct :=
  Node.modifyAt_keeps (fun _ _ _ distinct member => distinct.property member)
    (fun _ name _ distinct slotDistinct => distinct.putProperty slotDistinct name) keeps names
    distinct

/-- It keeps a node proper if the change does. -/
theorem Node.Proper.modifyAt (keeps : ∀ n : Node, n.Proper → (f n).Proper)
    (names : List String) (proper : n.Proper) : (Node.modifyAt f names n).Proper :=
  Node.modifyAt_keeps (fun _ _ _ proper member => proper.property member)
    (fun _ name _ proper slotProper => proper.putProperty slotProper name) keeps names proper

end ModifyAt

/-! ### Reading options -/

/-- Facets that are read from options bear no mark. -/
theorem Facets.mark_of_ofOptions {options : Options} {f : Facets}
    (valid : Facets.ofOptions options = .valid f) : f.mark = none := by
  simp only [Facets.ofOptions, Checked.seq_eq_valid_iff, Checked.map_eq_valid_iff] at valid
  obtain ⟨_, _, ⟨_, _, ⟨_, _, ⟨_, _, ⟨_, _, ⟨_, _, ⟨_, -, rfl⟩, -, rfl⟩, -, rfl⟩, -, rfl⟩, -, rfl⟩,
    -, rfl⟩, -, rfl⟩ := valid
  rfl

/-- Proper properties, each under a name of its own. -/
def ProperProperties (properties : Entries String (Slot Node)) : Prop :=
  properties.keys.Nodup ∧ ∀ p ∈ properties, p.2.content.Proper

/-- A node that is read with proper properties is proper. -/
theorem Node.proper_of_ofChecked {options : Options}
    {properties : Checked (Entries String (Slot Node))}
    (proper : ∀ read, properties = .valid read → ProperProperties read) {n : Node}
    (valid : Node.ofChecked options properties = .valid n) : n.Proper := by
  simp only [Node.ofChecked, Checked.seq_eq_valid_iff, Checked.map_eq_valid_iff] at valid
  rcases valid with ⟨f, read, ⟨facets, facetsEq, rfl⟩, readEq, rfl⟩
  exact Node.proper_mk_iff.mpr ⟨Facets.mark_of_ofOptions facetsEq, proper read readEq⟩

/-- So is the content of a slot that is read so. -/
theorem Slot.proper_of_ofChecked {options : Options}
    {properties : Checked (Entries String (Slot Node))}
    (proper : ∀ read, properties = .valid read → ProperProperties read) {slot : Slot Node}
    (valid : Slot.ofChecked options properties = .valid slot) : slot.content.Proper := by
  simp only [Slot.ofChecked, Checked.refusing_eq_valid_iff, Checked.seq_eq_valid_iff,
    Checked.map_eq_valid_iff] at valid
  rcases valid with ⟨-, f, required, ⟨n, node, rfl⟩, -, rfl⟩
  exact Node.proper_of_ofChecked proper node

/-- Properties that are read from options come from the dictionary that the options
name. -/
theorem exists_of_properties {options : List (Value × Value)}
    {properties : Entries String (Slot Node)}
    (valid : Options.properties options = .valid properties) :
    properties = [] ∨ ∃ k v, (k, v) ∈ options ∧ Property.ofDictionary v = .valid properties := by
  induction options with
  | nil => exact Or.inl (by simpa [Options.properties] using valid.symm)
  | cons option rest ih =>
      rcases option with ⟨name, v⟩
      rw [Options.properties] at valid
      split at valid
      · exact Or.inr ⟨name, v, List.mem_cons_self, Checked.within_eq_valid_iff.mp valid⟩
      · rcases ih valid with none | ⟨k, w, member, read⟩
        · exact Or.inl none
        · exact Or.inr ⟨k, w, List.mem_cons_of_mem _ member, read⟩

/-- Properties that are read from entries are each read from what is held there. -/
theorem exists_of_ofEntries {entries : List (Value × Value)} {list : List (String × Slot Node)}
    (valid : Property.ofEntries entries = .valid list) {p : String × Slot Node}
    (member : p ∈ list) :
    ∃ k v, (k, v) ∈ entries ∧ Property.ofValue v = .valid p.2 := by
  induction entries generalizing list with
  | nil =>
      obtain rfl : list = [] := by simpa [Property.ofEntries] using valid.symm
      simp at member
  | cons entry rest ih =>
      rcases entry with ⟨key, v⟩
      simp only [Property.ofEntries, Checked.seq_eq_valid_iff, Checked.map_eq_valid_iff,
        Checked.within_eq_valid_iff] at valid
      rcases valid with ⟨-, more, ⟨-, slot, ⟨name, -, rfl⟩, read, rfl⟩, moreRead, rfl⟩
      rcases List.mem_cons.mp member with rfl | later
      · exact ⟨key, v, List.mem_cons_self, read⟩
      · obtain ⟨k, w, found, readLater⟩ := ih moreRead later
        exact ⟨k, w, List.mem_cons_of_mem _ found, readLater⟩

/-- What is read from a value, as a property or as properties by name, is proper. -/
theorem proper_of_ofValue (v : Value) :
    (∀ slot, Property.ofValue v = .valid slot → slot.content.Proper) ∧
      ∀ properties, Property.ofDictionary v = .valid properties →
        ProperProperties properties := by
  induction v using Value.induction with
  | dict entries ih =>
      constructor
      · intro slot valid
        rw [Property.ofValue] at valid
        have readProper : ∀ read, Options.properties entries = .valid read →
            ProperProperties read := by
          intro read readEq
          rcases exists_of_properties readEq with rfl | ⟨k, v, member, dictionary⟩
          · exact ⟨List.nodup_nil, by simp⟩
          · exact (ih k v member).2 read dictionary
        exact Slot.proper_of_ofChecked readProper valid
      · intro properties valid
        rw [Property.ofDictionary, Checked.map_eq_valid_iff] at valid
        rcases valid with ⟨list, listEq, rfl⟩
        refine ⟨Entries.nodup_keys_ofList list, ?_⟩
        intro p member
        obtain ⟨k, v, held, read⟩ := exists_of_ofEntries listEq (Entries.mem_ofList member)
        exact (ih k v held).1 p.2 read
  | list items ih => simp [Property.ofValue, Property.ofDictionary, Checked.fault]
  | leaf v noList noDict =>
      cases v with
      | dict entries => exact absurd rfl (noDict entries)
      | _ => simp [Property.ofValue, Property.ofDictionary, Checked.fault]

/-- The properties that are read from options are proper. -/
theorem proper_of_properties {options : Options} {properties : Entries String (Slot Node)}
    (valid : Options.properties options = .valid properties) : ProperProperties properties := by
  rcases exists_of_properties valid with rfl | ⟨k, v, -, read⟩
  · exact ⟨List.nodup_nil, by simp⟩
  · exact (proper_of_ofValue v).2 properties read

/-- A property or a request body that is read from options is proper. -/
theorem Slot.proper_of_ofOptions {options : Options} {slot : Slot Node}
    (valid : Slot.ofChecked options (Options.properties options) = .valid slot) :
    slot.content.Proper :=
  Slot.proper_of_ofChecked (fun _ => proper_of_properties) valid

/-- A node that is read from options is proper. -/
theorem Node.proper_of_ofOptions {options : Options} {n : Node}
    (valid : Node.ofOptions options = .valid n) : n.Proper :=
  Node.proper_of_ofChecked (fun _ => proper_of_properties) valid

theorem Response.proper_of_ofOptions {options : Options} {n : Response}
    (valid : Response.ofOptions options = .valid n) : n.Proper :=
  Node.proper_of_ofOptions (Checked.refusing_eq_valid_iff.mp valid).2

theorem Component.proper_of_ofOptions {options : Options} {c : Component}
    (valid : Component.ofOptions options = .valid c) : c.node.Proper := by
  simp only [Component.ofOptions, Checked.refusing_eq_valid_iff, Checked.seq_eq_valid_iff,
    Checked.map_eq_valid_iff] at valid
  rcases valid with ⟨-, -, name, ⟨n, node, rfl⟩, -, rfl⟩
  exact Node.proper_of_ofOptions node

theorem Parameter.proper_of_ofOptions {options : Options} {p : Parameter}
    (valid : Parameter.ofOptions options = .valid p) : p.node.Proper := by
  simp only [Parameter.ofOptions, Checked.refusing_eq_valid_iff, Checked.seq_eq_valid_iff,
    Checked.map_eq_valid_iff] at valid
  rcases valid with
    ⟨-, -, required, ⟨-, location, ⟨-, name, ⟨n, node, rfl⟩, -, rfl⟩, -, rfl⟩, -, rfl⟩
  exact Node.proper_of_ofOptions node

/-! ### Declaring properties -/

namespace NodeSpec

/-- What holds of a specification whenever it holds of those of its properties holds of
every specification. -/
@[elab_as_elim]
theorem induction {motive : NodeSpec → Prop}
    (mk : ∀ options inside properties,
      (∀ name spec, (name, spec) ∈ properties → motive spec) →
        motive (.mk options inside properties)) (spec : NodeSpec) : motive spec :=
  @NodeSpec.rec motive (fun properties => ∀ name spec, (name, spec) ∈ properties → motive spec)
    (fun property => motive property.2)
    (fun options inside properties ih => mk options inside properties ih)
    (fun _ _ member => absurd member List.not_mem_nil)
    (fun _ _ head tail name spec member => by
      rcases List.mem_cons.mp member with rfl | later
      · exact head
      · exact tail name spec later)
    (fun _ _ ih => ih) spec

/-- Declaring properties keeps a node proper if whatever is declared for each of them is. -/
theorem proper_of_declareProperties {specs : List (Value × NodeSpec)}
    (each : ∀ name spec, (name, spec) ∈ specs → ∀ key slot failure,
      declareProperty name spec = .ok (key, slot, failure) → slot.content.Proper)
    {n : Node} (proper : n.Proper) : (declareProperties n specs).1.Proper := by
  induction specs generalizing n with
  | nil =>
      rw [declareProperties_nil]
      exact proper
  | cons first rest ih =>
      rcases first with ⟨name, spec⟩
      have firstProper := each name spec List.mem_cons_self
      have restProper := fun name spec member => each name spec (List.mem_cons_of_mem _ member)
      rw [declareProperties]
      split
      · exact proper
      · rename_i key slot failure declared
        exact proper.putProperty (firstProper key slot _ declared) key
      · rename_i key slot declared
        exact ih restProper (proper.putProperty (firstProper key slot _ declared) key)

/-- A property that comes to stand is proper, whether or not its own properties were
declared to the last. -/
theorem proper_of_declareProperty (spec : NodeSpec) {name : Value} {key : String}
    {slot : Slot Node} {failure : Option Failure}
    (declared : declareProperty name spec = .ok (key, slot, failure)) : slot.content.Proper := by
  induction spec using NodeSpec.induction generalizing name key slot failure with
  | mk options inside properties ih =>
      rw [declareProperty] at declared
      simp only [Attempt.bind_eq_ok_iff, Checked.toExcept_eq_ok_iff] at declared
      rcases declared with ⟨own, -, read, valid, text, -, stored⟩
      have readProper : read.content.Proper := Slot.proper_of_ofOptions valid
      split at stored
      · cases stored
        exact readProper
      · cases stored
        exact proper_of_declareProperties (fun name spec member _ _ _ => ih name spec member)
          readProper

/-- Declaring the properties of a specification keeps a node proper. -/
theorem proper_of_declareOn (spec : NodeSpec) {n : Node} (proper : n.Proper) :
    (spec.declareOn n).1.Proper := by
  rw [declareOn]
  split
  · exact proper
  · exact proper_of_declareProperties
      (fun _ spec _ _ _ _ => proper_of_declareProperty spec) proper

end NodeSpec

end ApiContract
