import ApiContract.Proofs.Document.Operation
import ApiContract.Proofs.Lint.Location
import ApiContract.Proofs.Lint.Search

/-!
# Response keys in the report

A registry is searched to the end unless a response key looks like a number and
is none, by digits that are not decimal or by too many of them: the search fails
with the first such key.  Where it does not fail, every key that names no status is
reported.  A response of the same endpoint may be searched at the same location,
if the text of its key is that of the unknown key or leads to it by names of
properties; only what is found in such a response can take the place of the report
of the key.
-/

namespace ApiContract.Registry

variable {known : String → Bool} {location : String}

/-- What is found at the location of a response key is not found in components. -/
theorem not_mem_componentFindings {seen : List String} {components : List Component} {i : Nat}
    {text m : String} : (endpointLocation i ++ ".responses." ++ text, m) ∉
      componentFindings known seen components := by
  intro member
  rcases within_of_mem_componentFindings member with ⟨c, -, within⟩
  rcases within.exists_append with ⟨rest, equal⟩
  rw [endpointLocation] at equal
  simp only [String.append_assoc] at equal
  exact append_ne_append 1 (by decide) (by decide) (by decide) _ _ equal

/-- What is found in endpoints at the location of a response key is found in the responses of its
endpoint. -/
theorem mem_answers_of_mem_found {endpoints : List Endpoint} {found : Findings}
    (searched : allEndpointFindings known 0 endpoints = .ok found) {i : Nat} {e : Endpoint}
    (standing : endpoints[i]? = some e) {text m : String}
    (member : (endpointLocation i ++ ".responses." ++ text, m) ∈ found) :
    ∃ responses answers, e.responses = .declared responses ∧
      allResponseFindings known (endpointLocation i) responses = .ok answers ∧
      (endpointLocation i ++ ".responses." ++ text, m) ∈ answers := by
  rcases (mem_allEndpointFindings_iff searched).mp member with
    ⟨j, other, head, otherEq, headEq, inside⟩
  rw [Nat.zero_add] at headEq
  have dotted : ".responses." = "." ++ "responses." := rfl
  rcases exists_of_mem_endpointFindings headEq inside with ⟨rest, equal⟩
  rw [dotted] at equal
  simp only [String.append_assoc] at equal
  obtain rfl := eq_of_endpointLocation equal
  cases standing.symm.trans otherEq
  rcases mem_endpointFindings headEq inside with ⟨part, listed, rest, equal⟩ | answer
  · -- The other parts of an endpoint differ from its responses in the first four letters.
    rw [String.append_assoc, String.append_right_inj] at equal
    simp only [List.mem_cons, List.not_mem_nil, or_false] at listed
    rcases listed with rfl | rfl | rfl | rfl <;>
      exact absurd equal (append_ne_append 4 (by decide) (by decide) (by decide) _ _)
  · exact answer

/-- At the location of a response key, a registry is searched as the responses of the endpoint
are. -/
theorem exists_answers {r : Registry} {found : Findings}
    (searched : allEndpointFindings r.has 0 r.endpoints = .ok found) {i : Nat} {e : Endpoint}
    (standing : r.endpoints[i]? = some e) :
    ∃ responses answers, e.responses = .declared responses ∧
      allResponseFindings r.has (endpointLocation i) responses = .ok answers ∧
      ∀ text m, (endpointLocation i ++ ".responses." ++ text, m) ∈
          componentFindings r.has [] r.components ++ found ↔
        (endpointLocation i ++ ".responses." ++ text, m) ∈ answers := by
  rcases exists_of_allEndpointFindings searched standing with ⟨head, headEq⟩
  rw [Nat.zero_add] at headEq
  obtain ⟨parameters, body, responses, answers, -, -, responsesEq, answersEq, parts⟩ :=
    endpointFindings_eq_ok headEq
  refine ⟨responses, answers, responsesEq, answersEq, fun text m => ?_⟩
  rw [List.mem_append]
  constructor
  · rintro (component | endpoint)
    · exact absurd component not_mem_componentFindings
    · rcases mem_answers_of_mem_found searched standing endpoint with
        ⟨others, more, othersEq, moreEq, inside⟩
      cases responsesEq.symm.trans othersEq
      cases answersEq.symm.trans moreEq
      exact inside
  · intro answer
    right
    rw [mem_allEndpointFindings_iff searched]
    refine ⟨i, e, head, standing, by rw [Nat.zero_add, headEq], ?_⟩
    rw [parts]
    exact List.mem_append_right _ answer

/-- What is found at the location of a response key is that the key is unknown, or is found in a
response whose key leads there. -/
theorem message_of_mem_answers {responses : List (Value × Standing Response)} {answers : Findings}
    (searched : allResponseFindings known location responses = .ok answers) {text m : String}
    (member : (location ++ ".responses." ++ text, m) ∈ answers) :
    m = (Status.unknown text).message?.getD "" ∨
      ∃ key ∈ responses.map (·.1), ∃ code t, Status.resolve key = .ok code ∧ key.shown = .ok t ∧
        Within t text := by
  rcases (mem_allResponseFindings_iff searched).mp member with
    ⟨key, response, head, listed, headEq, inside⟩
  rcases within_of_mem_responseFindings headEq inside with ⟨t, shown, within⟩
  cases resolved : Status.resolve key with
  | ok code => exact Or.inr ⟨key, List.mem_map_of_mem listed, code, t, resolved, shown,
      within.of_append⟩
  | error f =>
      left
      rw [responseFindings, shown, Attempt.ok_bind, resolved] at headEq
      cases f with
      | unknownStatus status names =>
          cases headEq
          rcases Prod.mk.injEq .. ▸ List.mem_singleton.mp inside with ⟨place, rfl⟩
          rw [String.append_right_inj] at place
          rw [Status.eq_unknown_of_resolve resolved shown, place]
      | _ => cases headEq

/-- What is found of an unknown key is found at its location. -/
theorem mem_answers_of_unknown {responses : List (Value × Standing Response)} {answers : Findings}
    (searched : allResponseFindings known location responses = .ok answers) {key : Value}
    {response : Standing Response} (listed : (key, response) ∈ responses) {text : String}
    (shown : key.shown = .ok text)
    (unresolved : Status.resolve key = .error (Status.unknown text)) :
    (location ++ ".responses." ++ text, (Status.unknown text).message?.getD "") ∈ answers := by
  rw [mem_allResponseFindings_iff searched]
  refine ⟨key, response, _, listed, ?_, List.mem_singleton_self _⟩
  rw [responseFindings, shown, Attempt.ok_bind, unresolved]
  rfl

/-- Searching a registry that is built by declaring, with whole numbers or texts for response keys,
comes to an end exactly if all of them can be read, and fails as one that cannot be read does.  The
report holds something for every key that names no status, at its location: that the key is unknown,
if no key that names a status leads there by names of properties. -/
theorem reported_keys {r : Registry} (built : r.Built)
    (plain : ∀ e ∈ r.endpoints, ∀ key ∈ e.statusKeys,
      (∃ n, key = .int n) ∨ key.isText = true) :
    ((∃ problems, r.problems = .ok problems) ↔
      ∀ e ∈ r.endpoints, ∀ key ∈ e.statusKeys, Status.Readable key) ∧
    (∀ f, r.problems = .error f → Status.Unreadable f) ∧
    ∀ problems, r.problems = .ok problems → ∀ i e, r.endpoints[i]? = some e →
      ∀ key ∈ e.statusKeys, (∀ code, Status.resolve key ≠ .ok code) →
        ∃ text message, key.shown = .ok text ∧
          problems.get? (endpointLocation i ++ ".responses." ++ text) = some message ∧
          ((∀ other ∈ e.statusKeys, ∀ code t, Status.resolve other = .ok code →
            other.shown = .ok t → ¬Within t text) →
            message = (Status.unknown text).message?.getD "") := by
  have readable : (∃ problems, r.problems = .ok problems) ↔
      ∀ e ∈ r.endpoints, ∀ key ∈ e.statusKeys, Status.Readable key := by
    rw [← Attempt.failure?_eq_none_iff, built.failure?_problems, List.findSome?_eq_none_iff]
    simp only [List.mem_flatMap]
    constructor
    · intro passed e member key listed
      exact (Status.refusal?_eq_none_iff (plain e member key listed)).mp
        (passed key ⟨e, member, listed⟩)
    · rintro readable key ⟨e, member, listed⟩
      exact (Status.refusal?_eq_none_iff (plain e member key listed)).mpr
        (readable e member key listed)
  refine ⟨readable, ?_, ?_⟩
  · intro f failed
    rw [← Attempt.failure?_eq_some_iff, built.failure?_problems] at failed
    rcases List.exists_of_findSome?_eq_some failed with ⟨key, listed, refused⟩
    rcases List.mem_flatMap.mp listed with ⟨e, member, inside⟩
    exact Status.unreadable_of_refusal? (plain e member key inside) refused
  · intro problems searched i e standing key listed unresolved
    have member := List.mem_of_getElem? standing
    rcases Status.resolve_cases (readable.mp ⟨problems, searched⟩ e member key listed) with
      ⟨text, shown, ⟨code, resolved, -⟩ | unknown⟩
    · exact absurd resolved (unresolved code)
    · rcases problems_eq_ok_iff.mp searched with ⟨found, foundEq, rfl⟩
      rcases exists_answers foundEq standing with
        ⟨responses, answers, responsesEq, answersEq, atKey⟩
      rw [Endpoint.statusKeys, responsesEq] at listed ⊢
      rcases List.mem_map.mp listed with ⟨⟨_, response⟩, response, rfl⟩
      have own := mem_answers_of_unknown answersEq response shown unknown
      obtain ⟨message, told⟩ := Option.isSome_iff_exists.mp
        (Entries.isSome_get?_ofList_iff.mpr ⟨_, (atKey text _).mpr own⟩)
      refine ⟨text, message, shown, told, ?_⟩
      intro apart
      have inside := (atKey text message).mp (Entries.mem_ofList (Entries.mem_of_get? told))
      rcases message_of_mem_answers answersEq inside with
        equal | ⟨other, otherListed, code, t, resolved, otherShown, leads⟩
      · exact equal
      · exact absurd leads (apart other otherListed code t resolved otherShown)

/-- Books that are listed under some response keys. -/
def answering (keys : List Value) : Registry :=
  ⟨[], [{ listing "" [] with
    responses := .declared (keys.map fun key => (key, .declared (.mk Facets.blank []))) }]⟩

/-- Declaring that books are listed under some response keys. -/
def answeringCall (keys : List Value) : Call :=
  listingCall "" (keys.map fun key => .addResponse key (.leaf []))

/-- Of two keys, the one that names no status is reported. -/
theorem reported_keys_lost :
    ∃ problems, (answering [.str "ok", .str "lost"]).problems = .ok problems ∧
      problems.get? "endpoints[0].responses.lost" =
        some ((Status.unknown "lost").message?.getD "") := by
  have built : (answering [.str "ok", .str "lost"]).Built :=
    Built.of_calls [answeringCall [.str "ok", .str "lost"]]
      (by simp [answeringCall, listingCall, Call.declares]) (by decide +kernel)
  have plain : ∀ e ∈ (answering [.str "ok", .str "lost"]).endpoints, ∀ key ∈ e.statusKeys,
      (∃ n, key = .int n) ∨ key.isText = true := by
    simp [answering, Endpoint.statusKeys, Value.isText]
  have unresolved : Status.resolve (.str "lost") = .error (Status.unknown "lost") := by
    decide +kernel
  have fails : ∀ code, Status.resolve (.str "lost") ≠ .ok code := by simp [unresolved]
  have ok : Status.Readable (.str "ok") := Status.readable_str (by decide +kernel)
  have lost : Status.Readable (.str "lost") := Status.readable_str (by decide +kernel)
  have apart : ∀ other ∈ [Value.str "ok", .str "lost"], ∀ code t,
      Status.resolve other = .ok code → other.shown = .ok t → ¬Within t "lost" := by
    intro other member code t resolved shown within
    simp only [List.mem_cons, List.not_mem_nil, or_false] at member
    rcases member with rfl | rfl
    · obtain rfl : "ok" = t := Except.ok.inj shown
      rcases within.exists_append with ⟨rest, equal⟩
      exact append_ne_append 1 (by decide) (by decide) (by decide) "" rest
        (String.append_empty.trans equal)
    · exact absurd resolved (fails code)
  rcases reported_keys built plain with ⟨ends, -, reported⟩
  rcases ends.mpr (by simp [answering, Endpoint.statusKeys, ok, lost]) with
    ⟨problems, searched⟩
  rcases reported problems searched 0 _ rfl (.str "lost") (by simp [Endpoint.statusKeys]) fails with
    ⟨text, message, shown, found, unlessApart⟩
  obtain rfl : "lost" = text := Except.ok.inj shown
  exact ⟨problems, searched, (unlessApart apart) ▸ found⟩

/-- A superscript is a digit, but makes no number: with such a key there is no report. -/
theorem reported_keys_superscript :
    (answering [.str "²"]).Built ∧
      (∀ e ∈ (answering [.str "²"]).endpoints, e.path.isText = true ∧ e.statusKeys = [.str "²"]) ∧
      (∀ code, Status.resolve (.str "²") ≠ .ok code) ∧
      (answering [.str "²"]).problems = .error (.badValue .notDecimal) := by
  have built : (answering [.str "²"]).Built :=
    Built.of_calls [answeringCall [.str "²"]] (by simp [answeringCall, listingCall, Call.declares])
      (by decide +kernel)
  have unresolved : Status.resolve (.str "²") = .error (.badValue .notDecimal) := by
    decide +kernel
  have failed : Attempt.failure? (answering [.str "²"]).problems =
      some (.badValue .notDecimal) := by
    decide +kernel
  refine ⟨built, ?_, ?_, Attempt.failure?_eq_some_iff.mp failed⟩
  · simp [answering, listing, Endpoint.statusKeys, Value.isText]
  · simp [unresolved]

end ApiContract.Registry
