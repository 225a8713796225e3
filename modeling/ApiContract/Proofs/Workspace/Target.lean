import ApiContract.Workspace.Target

/-!
# Taking targets apart

A target is a module and a member with a colon between them, or a module alone.
The last colon is the one that counts, so joining a module with a member and taking
the result apart gives both back, whatever colons stand in the module.  A text in
which no colon counts is a module as a whole.  There is no third kind of text.
-/

namespace ApiContract

namespace Text

variable {c : Char} {cs before after : List Char}

/-- A text is not split at a character that does not occur in it. -/
theorem splitLast?_eq_none_iff : splitLast? c cs = none ↔ c ∉ cs := by
  induction cs with
  | nil => simp [splitLast?]
  | cons d rest ih =>
      rw [splitLast?, List.mem_cons, not_or, ← ih]
      cases splitLast? c rest with
      | some parts => simp
      | none =>
          by_cases same : d = c
          · simp [same]
          · simp [same, Ne.symm same]

theorem splitLast?_append (fresh : c ∉ after) :
    splitLast? c (before ++ c :: after) = some (before, after) := by
  induction before with
  | nil => simp [splitLast?, splitLast?_eq_none_iff.mpr fresh]
  | cons d rest ih => rw [List.cons_append, splitLast?, ih]

/-- A text that contains a character has a last occurrence of it. -/
theorem exists_last_of_mem (member : c ∈ cs) :
    ∃ before after, cs = before ++ c :: after ∧ c ∉ after := by
  induction cs with
  | nil => exact absurd member List.not_mem_nil
  | cons d rest ih =>
      by_cases later : c ∈ rest
      · obtain ⟨before, after, rfl, fresh⟩ := ih later
        exact ⟨d :: before, after, rfl, fresh⟩
      · obtain rfl := (List.mem_cons.mp member).resolve_right later
        exact ⟨[], rest, rfl, later⟩

end Text

namespace Target

/-- A text has neither colons nor slashes in it, as the name of a member. -/
def IsMember (name : String) : Prop :=
  ∀ c ∈ name.toList, c ≠ ':' ∧ isSlash c = false

instance (name : String) : Decidable (IsMember name) :=
  List.decidableBAll (fun c => c ≠ ':' ∧ isSlash c = false) name.toList

/-- No colon in a text counts: there is none, or the only one is the first character, or a slash
follows the last one. -/
inductive IsWhole : String → Prop
  | plain {text : String} (none : ':' ∉ text.toList) : IsWhole text
  | leading {rest : String} (none : ':' ∉ rest.toList) : IsWhole (":" ++ rest)
  | path {before after : String} (last : ':' ∉ after.toList) {c : Char}
      (inside : c ∈ after.toList) (slash : isSlash c = true) : IsWhole (before ++ ":" ++ after)

theorem standardMember_ne_empty : standardMember ≠ "" := by
  decide

theorem isMember_standardMember : IsMember standardMember := by
  decide

theorem toList_join (moduleName member : String) :
    (moduleName ++ ":" ++ member).toList = moduleName.toList ++ ':' :: member.toList := by
  simp

/-- What a text is taken for, by what stands around the last colon. -/
theorem ofText_of_last {text before after : String} (split : text = before ++ ":" ++ after)
    (last : ':' ∉ after.toList) :
    ofText text =
      if before.toList.isEmpty || after.toList.any isSlash then ⟨text, standardMember⟩
      else ⟨before, if after.toList.isEmpty then standardMember else after⟩ := by
  rw [ofText, split, toList_join, Text.splitLast?_append last]
  simp only [String.ofList_toList]

/-- A module and a member that are joined are taken apart again; where no member is named, the
standard one is meant. -/
theorem ofText_join {moduleName member : String} (named : moduleName ≠ "")
    (isMember : IsMember member) :
    ofText (moduleName ++ ":" ++ member) =
      ⟨moduleName, if member = "" then standardMember else member⟩ := by
  have last : ':' ∉ member.toList := fun inside => (isMember _ inside).1 rfl
  have noSlash : member.toList.any isSlash = false := by
    rw [List.any_eq_false]
    intro c inside
    simp [(isMember c inside).2]
  rw [ofText_of_last rfl last, noSlash]
  simp [named]

/-- A text in which no colon counts is a module as a whole. -/
theorem IsWhole.ofText_eq {text : String} (whole : IsWhole text) :
    ofText text = ⟨text, standardMember⟩ := by
  cases whole with
  | plain none => rw [ofText, Text.splitLast?_eq_none_iff.mpr none]
  | @leading rest none =>
      have split : ":" ++ rest = "" ++ ":" ++ rest := by simp
      rw [ofText_of_last split none]
      simp
  | path last inside slash =>
      have any := List.any_eq_true.mpr ⟨_, inside, slash⟩
      rw [ofText_of_last rfl last, any]
      simp

/-- Every text is a module and a member with a colon between them, or a module as a whole. -/
theorem join_or_isWhole (text : String) :
    (∃ moduleName member, moduleName ≠ "" ∧ IsMember member ∧
      text = moduleName ++ ":" ++ member) ∨ IsWhole text := by
  by_cases colon : ':' ∈ text.toList
  · obtain ⟨before, after, split, last⟩ := Text.exists_last_of_mem colon
    obtain rfl : text = String.ofList before ++ ":" ++ String.ofList after := by
      rw [← String.toList_inj, toList_join, split, String.toList_ofList, String.toList_ofList]
    rw [← String.toList_ofList (l := after)] at last
    by_cases slash : ∃ c ∈ (String.ofList after).toList, isSlash c = true
    · obtain ⟨c, inside, slash⟩ := slash
      exact .inr (.path last inside slash)
    by_cases named : String.ofList before = ""
    · rw [named, String.empty_append]
      exact .inr (.leading last)
    · refine .inl ⟨_, _, named, ?_, rfl⟩
      intro c inside
      refine ⟨?_, ?_⟩
      · rintro rfl
        exact last inside
      · exact Bool.eq_false_iff.mpr fun here => slash ⟨c, inside, here⟩
  · exact .inr (.plain colon)

/-- Taking a target apart undoes joining a module with a member.  All other texts are modules, for
which the standard member is meant.  So a member is always named, without colons and slashes in it,
and the text is the module alone, or the module with a colon and with the member or nothing. -/
theorem ofText_undoes_join :
    (∀ moduleName member, moduleName ≠ "" → IsMember member →
      ofText (moduleName ++ ":" ++ member) =
        ⟨moduleName, if member = "" then standardMember else member⟩) ∧
    (∀ text, IsWhole text → ofText text = ⟨text, standardMember⟩) ∧
    ∀ text, ((∃ moduleName member, moduleName ≠ "" ∧ IsMember member ∧
          text = moduleName ++ ":" ++ member) ∨ IsWhole text) ∧
      (ofText text).member ≠ "" ∧ IsMember (ofText text).member ∧
      (text = (ofText text).moduleName ∨
        text = (ofText text).moduleName ++ ":" ++ (ofText text).member ∨
        text = (ofText text).moduleName ++ ":") := by
  refine ⟨fun _ _ => ofText_join, fun _ => IsWhole.ofText_eq, fun text => ?_⟩
  refine ⟨join_or_isWhole text, ?_⟩
  rcases join_or_isWhole text with ⟨moduleName, member, named, isMember, rfl⟩ | whole
  · rw [ofText_join named isMember]
    by_cases given : member = ""
    · subst given
      exact ⟨standardMember_ne_empty, isMember_standardMember, .inr (.inr String.append_empty)⟩
    · rw [if_neg given]
      exact ⟨given, isMember, .inr (.inl rfl)⟩
  · rw [whole.ofText_eq]
    exact ⟨standardMember_ne_empty, isMember_standardMember, .inl rfl⟩

/-- A path with a drive letter is a module as a whole, and is one before a member. -/
theorem ofText_undoes_join_drive :
    IsWhole "C:\\api.py" ∧ ofText "C:\\api.py" = ⟨"C:\\api.py", "registry"⟩ ∧
      IsMember "build" ∧ ofText "C:\\api.py:build" = ⟨"C:\\api.py", "build"⟩ := by
  have whole : IsWhole "C:\\api.py" :=
    @IsWhole.path "C" "\\api.py" (by decide) '\\' (by decide) (by decide)
  have isMember : IsMember "build" := by decide
  have ⟨joined, wholes, _⟩ := ofText_undoes_join
  exact ⟨whole, wholes _ whole, isMember, joined "C:\\api.py" "build" (by decide) isMember⟩

end Target

end ApiContract
