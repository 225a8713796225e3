import ApiContract.Proofs.Document.Operation
import ApiContract.Proofs.Registry.Typed
import ApiContract.Proofs.Text.CharClass

/-!
# Verbs in any spelling

A verb is brought to small letters when it is added to an endpoint, and so is the method
when an endpoint is looked for.  So it does not matter how either of them is spelled: what
an endpoint answers to follows from the edits that were made of it, and from nothing else
that was declared in between.
-/

namespace ApiContract

/-! ### Edits -/

namespace Edit

/-- The path that an edit sets. -/
def path? : Edit → Option Value
  | .setPath path => some path
  | _ => none

/-- The verbs that an edit adds. -/
def verbs : Edit → List Value
  | .addOperations verbs => verbs
  | _ => []

/-- The path that edits set last, or null. -/
def lastPath (edits : List Edit) : Value :=
  (edits.filterMap path?).getLast?.getD .null

/-- The verbs that edits add, first to last, as they are spelled. -/
def spellings (edits : List Edit) : List String :=
  edits.flatMap fun edit => edit.verbs.filterMap Value.display?

/-- The operations that edits add: their verbs in small letters, each where it is added first. -/
def operationsOf (edits : List Edit) : List String :=
  ((spellings edits).map Text.lower).eraseDups

/-- The route that edits give an endpoint. -/
def routeOf (edits : List Edit) : Value × Value :=
  (lastPath edits, .list ((operationsOf edits).map .str))

/-- Edits make an endpoint answer a method on a path: they set the path last, and add a verb that is
the method in small letters. -/
def Answer (edits : List Edit) (path : Value) (method : String) : Prop :=
  (lastPath edits).same path = true ∧
    ∃ verb ∈ spellings edits, Text.lower verb = Text.lower method

instance (edits : List Edit) (path : Value) (method : String) :
    Decidable (Answer edits path method) :=
  inferInstanceAs (Decidable (_ ∧ ∃ verb ∈ spellings edits, _))

variable {edits : List Edit} {edit : Edit}

theorem lastPath_concat :
    lastPath (edits ++ [edit]) = edit.path?.getD (lastPath edits) := by
  rw [lastPath, lastPath, List.filterMap_append, List.getLast?_append, List.filterMap_cons,
    List.filterMap_nil]
  cases edit.path? with
  | none => rfl
  | some path => rfl

theorem spellings_concat :
    spellings (edits ++ [edit]) = spellings edits ++ edit.verbs.filterMap Value.display? := by
  rw [spellings, List.flatMap_append, List.flatMap_singleton]
  rfl

/-- An edit that neither sets the path nor adds verbs keeps the route. -/
theorem routeOf_concat_of_other (path : edit.path? = none) (verbs : edit.verbs = []) :
    routeOf (edits ++ [edit]) = routeOf edits := by
  rw [routeOf, operationsOf, lastPath_concat, spellings_concat, path, verbs, List.filterMap_nil,
    List.append_nil]
  rfl

end Edit

namespace Endpoint

/-- A verb is added to operations where it is not among them yet. -/
theorem addVerb_eq (verb : String) (before : List String) :
    addVerb verb (.list (before.eraseDups.map .str)) =
      .ok (.list ((before ++ [verb]).eraseDups.map .str)) := by
  have there : (before.eraseDups.map Value.str).any (Value.same (.str verb)) =
      decide (verb ∈ before) := by
    rw [Bool.eq_iff_iff, List.any_eq_true, decide_eq_true_eq]
    simp [Value.same]
  have holds : (Value.list (before.eraseDups.map .str)).holds? verb =
      some (decide (verb ∈ before)) := congrArg some there
  rw [Entries.eraseDups_concat]
  by_cases known : verb ∈ before
  · simp [addVerb, holds, known]
  · simp [addVerb, holds, known]

/-- Verbs with texts are added in small letters, and none of them stops the others. -/
theorem addVerbs_eq {verbs : List Value} (texts : ∀ verb ∈ verbs, verb.display?.isSome = true)
    (before : List String) :
    addVerbs (.list (before.eraseDups.map .str)) verbs =
      (.list ((before ++ (verbs.filterMap Value.display?).map Text.lower).eraseDups.map .str),
        none) := by
  induction verbs generalizing before with
  | nil => simp [addVerbs]
  | cons verb rest ih =>
      obtain ⟨first, later⟩ := List.forall_mem_cons.mp texts
      obtain ⟨text, shown⟩ := Option.isSome_iff_exists.mp first
      have added : (verb.shown.bind fun text =>
          addVerb (Text.lower text) (.list (before.eraseDups.map .str))) =
          .ok (.list ((before ++ [Text.lower text]).eraseDups.map .str)) := by
        rw [Value.shown, shown]
        exact addVerb_eq _ _
      rw [addVerbs, added]
      simp only [ih later, List.filterMap_cons, shown, List.map_cons, List.append_assoc,
        List.singleton_append]

/-- An edit gives an endpoint the route that it adds to the edits before. -/
theorem route_edit {e : Endpoint} {edits : List Edit} (route : e.route = Edit.routeOf edits)
    {edit : Edit} (texts : ∀ verb ∈ edit.verbs, verb.display?.isSome = true) :
    (e.edit edit).1.route = Edit.routeOf (edits ++ [edit]) := by
  cases edit with
  | setPath path =>
      rw [Edit.routeOf, Edit.operationsOf, Edit.lastPath_concat, Edit.spellings_concat]
      simp only [Edit.verbs, Edit.path?, List.filterMap_nil, List.append_nil, Option.getD_some]
      exact congrArg (Prod.mk path) (congrArg Prod.snd route)
  | addOperations verbs =>
      have path : e.path = Edit.lastPath edits := congrArg Prod.fst route
      have operations : e.operations = .list ((Edit.operationsOf edits).map .str) :=
        congrArg Prod.snd route
      have added := addVerbs_eq texts ((Edit.spellings edits).map Text.lower)
      rw [Edit.routeOf, Edit.operationsOf, Edit.lastPath_concat, Edit.spellings_concat,
        List.map_append]
      simp only [Endpoint.edit, Endpoint.route, operations, Edit.operationsOf, path]
      exact congrArg (Prod.mk _) (congrArg Prod.fst added)
  | setDescription description => exact route.trans (Edit.routeOf_concat_of_other rfl rfl).symm
  | addParameter name spec =>
      exact (route_addParameter.trans route).trans (Edit.routeOf_concat_of_other rfl rfl).symm
  | setRequestBody spec =>
      exact (route_setRequestBody.trans route).trans (Edit.routeOf_concat_of_other rfl rfl).symm
  | addResponse status spec =>
      exact (route_addResponse.trans route).trans (Edit.routeOf_concat_of_other rfl rfl).symm
  | exceptionError status description =>
      exact (route_addResponse.trans route).trans (Edit.routeOf_concat_of_other rfl rfl).symm

/-- The edits that are made of an endpoint when it is filled in: all up to the first that fails. -/
def made (e : Endpoint) : List Edit → List Edit
  | [] => []
  | edit :: rest =>
    match e.edit edit with
    | (e, .ok _) => edit :: made e rest
    | (_, .error _) => [edit]

/-- Filling in an endpoint gives it the route of the edits that are made. -/
theorem route_configure {e : Endpoint} {before : List Edit} (route : e.route = Edit.routeOf before)
    {edits : List Edit} (texts : ∀ edit ∈ edits, ∀ verb ∈ edit.verbs, verb.display?.isSome = true) :
    (e.configure edits).1.route = Edit.routeOf (before ++ e.made edits) := by
  induction edits generalizing e before with
  | nil => rwa [made, List.append_nil]
  | cons edit rest ih =>
      obtain ⟨first, later⟩ := List.forall_mem_cons.mp texts
      have step := route_edit route first
      rw [configure, made]
      cases done : e.edit edit with
      | mk next answer =>
          rw [done] at step
          cases answer with
          | ok declared =>
              have rest := ih step later
              rwa [List.append_assoc, List.singleton_append] at rest
          | error f => exact step

end Endpoint

/-! ### Calls -/

namespace Call

/-- The edits of a call. -/
def edits : Call → List Edit
  | .endpoint edits => edits
  | .edit _ change => [change]
  | _ => []

/-- The edits that were made of every endpoint, after one more call. -/
def record (history : List (List Edit)) : Call → List (List Edit)
  | .endpoint edits => history ++ [Endpoint.empty.made edits]
  | .edit index change => history.modify index (· ++ [change])
  | _ => history

/-- The edits that calls made of every endpoint, in the order in which endpoints were declared. -/
def history (calls : List Call) : List (List Edit) :=
  calls.foldl record []

end Call

/-- What two lists have in common stays if both are changed at one place alike. -/
theorem map_modify_eq {α β γ : Type} {f : α → α} {g : β → β} {common : α → γ} {other : β → γ}
    {list : List α} {others : List β} (standing : list.map common = others.map other)
    (step : ∀ a b, common a = other b → common (f a) = other (g b)) (index : Nat) :
    (list.modify index f).map common = (others.modify index g).map other := by
  apply List.ext_getElem?
  intro i
  have here : list[i]?.map common = others[i]?.map other := by
    rw [← List.getElem?_map, standing, List.getElem?_map]
  rw [List.getElem?_map, List.getElem?_map, List.getElem?_modify, List.getElem?_modify]
  by_cases same : index = i
  · cases found : list[i]? with
    | none =>
        have missing : others[i]? = none := by simpa [found] using here.symm
        simp [missing]
    | some a =>
        rw [found, Option.map_some] at here
        obtain ⟨b, there, equal⟩ := Option.map_eq_some_iff.mp here.symm
        simp [there, same, step a b equal.symm]
  · simpa [same] using here

namespace Registry

variable {r : Registry} {history : List (List Edit)}

/-- A call that declares gives the endpoints the routes of the edits that were made of them. -/
theorem routes_call (standing : r.endpoints.map Endpoint.route = history.map Edit.routeOf)
    {c : Call} (declares : c.declares = true)
    (texts : ∀ edit ∈ c.edits, ∀ verb ∈ edit.verbs, verb.display?.isSome = true) :
    (r.call c).registry.endpoints.map Endpoint.route = (c.record history).map Edit.routeOf := by
  cases c with
  | component name spec =>
      change (r.component name spec).registry.endpoints.map _ = _
      rw [endpoints_component]
      exact standing
  | derive name attributes storage properties =>
      change (r.derive name attributes storage properties).registry.endpoints.map _ = _
      rw [endpoints_derive]
      exact standing
  | endpoint edits =>
      change (r.endpoint edits).registry.endpoints.map _ = _
      have start : Endpoint.empty.route = Edit.routeOf [] := rfl
      have filled := Endpoint.route_configure start texts
      rw [endpoints_endpoint, Call.record, List.map_append, List.map_append, standing]
      exact congrArg (_ ++ [·]) filled
  | edit index edit =>
      change (r.edit index edit).registry.endpoints.map _ = _
      rw [endpoints_edit]
      exact map_modify_eq standing
        (fun _ _ route => Endpoint.route_edit route (texts edit List.mem_cons_self)) index
  | addProperty place name spec =>
      change (r.addProperty place name spec).registry.endpoints.map _ = _
      obtain ⟨index, change, node, equal⟩ := exists_nodeChange_addProperty place name spec
      have keeps (e : Endpoint) (edits : List Edit) (route : e.route = Edit.routeOf edits) :
          (change e).route = Edit.routeOf (id edits) := node.route.trans route
      have step := map_modify_eq standing keeps index
      rw [List.modify_id, ← equal] at step
      exact step
  | assignNode place field value => simp [Call.declares] at declares
  | assignEndpoint index field value => simp [Call.declares] at declares

/-- Calls that declare, one after the other, give the endpoints the routes of the edits that were
made of them. -/
theorem routes_run (standing : r.endpoints.map Endpoint.route = history.map Edit.routeOf)
    {calls : List Call} (declare : ∀ c ∈ calls, c.declares = true)
    (texts : ∀ c ∈ calls, ∀ edit ∈ c.edits, ∀ verb ∈ edit.verbs, verb.display?.isSome = true) :
    (calls.foldl (fun r c => (r.call c).registry) r).endpoints.map Endpoint.route =
      (calls.foldl Call.record history).map Edit.routeOf := by
  induction calls generalizing r history with
  | nil => exact standing
  | cons c rest ih =>
      obtain ⟨declares, restDeclare⟩ := List.forall_mem_cons.mp declare
      obtain ⟨first, later⟩ := List.forall_mem_cons.mp texts
      exact ih (routes_call standing declares first) restDeclare later

/-! ### Looking endpoints up -/

/-- The endpoint that is looked for is the first that declares the verb on the path. -/
theorem findFrom_eq_findIdx? {path : Value} {verb : String} {endpoints : List Endpoint}
    (answers : ∀ e ∈ endpoints, e.answers path verb = .ok (e.declares path verb)) (start : Nat) :
    findFrom path verb start endpoints =
      .ok ((endpoints.findIdx? (·.declares path verb)).bind fun i =>
        endpoints[i]?.map fun e => (start + i, e)) := by
  induction endpoints generalizing start with
  | nil => rfl
  | cons e rest ih =>
      obtain ⟨first, later⟩ := List.forall_mem_cons.mp answers
      rw [findFrom, first, Attempt.ok_bind, List.findIdx?_cons]
      cases e.declares path verb with
      | true => rfl
      | false =>
          rw [ih later]
          cases found : rest.findIdx? (·.declares path verb) with
          | none => simp
          | some i => simp [Nat.add_assoc, Nat.add_comm 1]

/-- An endpoint declares a method on a path exactly if the edits that were made of it answer. -/
theorem declares_iff_answer {e : Endpoint} {edits : List Edit}
    (route : e.route = Edit.routeOf edits) (path : Value) (method : String) :
    e.declares path (Text.lower method) = true ↔ Edit.Answer edits path method := by
  have pathEq : e.path = Edit.lastPath edits := congrArg Prod.fst route
  have operations : e.operations = .list ((Edit.operationsOf edits).map .str) :=
    congrArg Prod.snd route
  rw [Endpoint.declares_eq operations, pathEq, Bool.and_eq_true, Edit.Answer, List.any_map,
    List.any_eq_true]
  simp [Edit.operationsOf, Value.same]

theorem forall₂_of_routes (standing : r.endpoints.map Endpoint.route = history.map Edit.routeOf) :
    List.Forall₂ (fun e edits => e.route = Edit.routeOf edits) r.endpoints history := by
  rwa [← List.forall₂_eq_eq_eq, List.forall₂_map_left_iff, List.forall₂_map_right_iff] at standing

/-- Where endpoints have the routes of edits, an endpoint is found by the edits alone: it stands
where edits answer the method on the path for the first time. -/
theorem find?_eq_findIdx? (standing : r.endpoints.map Endpoint.route = history.map Edit.routeOf)
    (path : Value) (method : String) :
    r.find? path method =
      .ok ((history.findIdx? fun edits => Edit.Answer edits path method).bind fun i =>
        r.endpoints[i]?.map fun e => (i, e)) := by
  have pairs := forall₂_of_routes standing
  have answers : ∀ e ∈ r.endpoints,
      e.answers path (Text.lower method) = .ok (e.declares path (Text.lower method)) := by
    intro e member
    obtain ⟨edits, -, route⟩ := Attempt.exists_of_mem_left pairs member
    exact Endpoint.answers_of_list (congrArg Prod.snd route) _ _
  have same : r.endpoints.map (·.declares path (Text.lower method)) =
      history.map fun edits => decide (Edit.Answer edits path method) := by
    rw [← List.forall₂_eq_eq_eq, List.forall₂_map_left_iff, List.forall₂_map_right_iff]
    refine pairs.imp fun e edits route => ?_
    rw [Bool.eq_iff_iff, declares_iff_answer route, decide_eq_true_iff]
  have index : r.endpoints.findIdx? (·.declares path (Text.lower method)) =
      history.findIdx? fun edits => Edit.Answer edits path method := by
    have first := congrArg (List.findIdx? id) same
    rwa [List.findIdx?_map, List.findIdx?_map] at first
  rw [find?, findFrom_eq_findIdx? answers, index]
  simp only [Nat.zero_add]

theorem find?_eq_ok_some_iff (standing : r.endpoints.map Endpoint.route = history.map Edit.routeOf)
    {path : Value} {method : String} {i : Nat} {e : Endpoint} :
    r.find? path method = .ok (some (i, e)) ↔ r.endpoints[i]? = some e ∧
      (∃ edits, history[i]? = some edits ∧ Edit.Answer edits path method) ∧
      ∀ j < i, ∀ edits, history[j]? = some edits → ¬Edit.Answer edits path method := by
  rw [find?_eq_findIdx? standing, Except.ok.injEq, Option.bind_eq_some_iff]
  simp only [List.findIdx?_eq_some_iff_getElem, Option.map_eq_some_iff, Prod.mk.injEq,
    decide_eq_true_eq]
  constructor
  · rintro ⟨_, ⟨inside, answer, before⟩, _, here, rfl, rfl⟩
    refine ⟨here, ⟨_, List.getElem?_eq_getElem inside, answer⟩, ?_⟩
    intro j earlier edits there
    obtain ⟨-, rfl⟩ := List.getElem?_eq_some_iff.mp there
    exact before j earlier
  · rintro ⟨here, ⟨edits, there, answer⟩, before⟩
    obtain ⟨inside, rfl⟩ := List.getElem?_eq_some_iff.mp there
    refine ⟨i, ⟨inside, answer, ?_⟩, e, here, rfl, rfl⟩
    exact fun j earlier =>
      before j earlier _ (List.getElem?_eq_getElem (earlier.trans inside))

theorem find?_eq_ok_none_iff (standing : r.endpoints.map Endpoint.route = history.map Edit.routeOf)
    {path : Value} {method : String} :
    r.find? path method = .ok none ↔ ∀ edits ∈ history, ¬Edit.Answer edits path method := by
  have lengths : r.endpoints.length = history.length := (forall₂_of_routes standing).length_eq
  rw [find?_eq_findIdx? standing, Except.ok.injEq, Option.bind_eq_none_iff]
  constructor
  · intro none edits member answer
    have answered : (history.findIdx? fun edits => Edit.Answer edits path method) ≠ .none := by
      intro missing
      have refused := List.findIdx?_eq_none_iff.mp missing edits member
      exact of_decide_eq_false refused answer
    obtain ⟨i, found⟩ := Option.ne_none_iff_exists'.mp answered
    obtain ⟨inside, -⟩ := List.findIdx?_eq_some_iff_getElem.mp found
    rw [← lengths] at inside
    simpa [List.getElem?_eq_getElem inside] using none i found
  · intro unanswered i found
    obtain ⟨inside, answer, -⟩ := List.findIdx?_eq_some_iff_getElem.mp found
    exact absurd (of_decide_eq_true answer) (unanswered _ (List.getElem_mem inside))

/-- What endpoints answer to follows from the edits that calls made of them, whatever else they
declare, and however verbs and methods are spelled.  An endpoint is on the path that was set last,
and its operations are the verbs that were added, in small letters, each once and where it was added
first; verbs of plain letters are small then for good.  The endpoint that is found for a path and a
method is the first whose path is the same and to which a verb was added that is the method in small
letters, and there is none only if no endpoint is like that. -/
theorem find?_any_spelling {calls : List Call} (declare : ∀ c ∈ calls, c.declares = true)
    (texts : ∀ c ∈ calls, ∀ edit ∈ c.edits, ∀ verb ∈ edit.verbs, verb.display?.isSome = true)
    (made : calls.foldl (fun r c => (r.call c).registry) .empty = r) :
    List.Forall₂ (fun e edits => e.path = Edit.lastPath edits ∧
        ∃ verbs, e.operations = .list (verbs.map .str) ∧
          verbs = ((Edit.spellings edits).map Text.lower).eraseDups ∧ verbs.Nodup ∧
          ((∀ verb ∈ Edit.spellings edits, Text.IsAscii verb) →
            verbs = ((Edit.spellings edits).map String.toLower).eraseDups ∧
              ∀ verb ∈ verbs, Text.lower verb = verb))
      r.endpoints (Call.history calls) ∧
    ∀ path method,
      (∀ i e, r.find? path method = .ok (some (i, e)) ↔ r.endpoints[i]? = some e ∧
        (∃ edits, (Call.history calls)[i]? = some edits ∧ Edit.Answer edits path method) ∧
        ∀ j < i, ∀ edits, (Call.history calls)[j]? = some edits →
          ¬Edit.Answer edits path method) ∧
      (r.find? path method = .ok none ↔
        ∀ edits ∈ Call.history calls, ¬Edit.Answer edits path method) := by
  have start : Registry.empty.endpoints.map Endpoint.route =
      ([] : List (List Edit)).map Edit.routeOf := rfl
  have standing := routes_run start declare texts
  rw [made] at standing
  refine ⟨(forall₂_of_routes standing).imp ?_, fun _ _ =>
    ⟨fun _ _ => find?_eq_ok_some_iff standing, find?_eq_ok_none_iff standing⟩⟩
  intro e edits route
  refine ⟨congrArg Prod.fst route, _, congrArg Prod.snd route, rfl, Entries.nodup_eraseDups _, ?_⟩
  intro ascii
  have plain : (Edit.spellings edits).map Text.lower =
      (Edit.spellings edits).map String.toLower :=
    List.map_congr_left fun verb member => (ascii verb member).lower_eq
  rw [Edit.operationsOf, plain]
  refine ⟨rfl, ?_⟩
  intro verb member
  obtain ⟨spelling, listed, rfl⟩ := List.mem_map.mp (List.mem_eraseDups.mp member)
  exact (ascii spelling listed).lower_toLower

/-- Declaring two endpoints on one path, with verbs in several spellings. -/
def spelledCalls : List Call :=
  [.endpoint [.setPath (.str "/books"), .addOperations [.str "GET", .str "Post", .str "get"]],
    .endpoint [.setPath (.str "/books"), .addOperations [.str "post", .str "PATCH"]],
    .edit 1 (.addOperations [.str "Patch", .str "dElEtE"])]

/-- The edits that these calls make. -/
def spelledHistory : List (List Edit) :=
  [[.setPath (.str "/books"), .addOperations [.str "GET", .str "Post", .str "get"]],
    [.setPath (.str "/books"), .addOperations [.str "post", .str "PATCH"],
      .addOperations [.str "Patch", .str "dElEtE"]]]

theorem history_spelledCalls : Call.history spelledCalls = spelledHistory :=
  rfl

/-- An endpoint for books, with operations. -/
def bookEndpoint (verbs : List String) : Endpoint :=
  { Endpoint.empty with path := .str "/books", operations := .list (verbs.map .str) }

/-- The registry that these calls make. -/
def spelledBooks : Registry :=
  ⟨[], [bookEndpoint ["get", "post"], bookEndpoint ["post", "patch", "delete"]]⟩

/-- Posting goes to the first endpoint and deleting to the second, in whatever spelling. -/
theorem find?_any_spelling_books :
    spelledBooks.find? (.str "/books") "POST" = .ok (some (0, bookEndpoint ["get", "post"])) ∧
      spelledBooks.find? (.str "/books") "Delete" =
        .ok (some (1, bookEndpoint ["post", "patch", "delete"])) ∧
      spelledBooks.find? (.str "/books") "put" = .ok none := by
  have declare : ∀ c ∈ spelledCalls, c.declares = true := by simp [spelledCalls, Call.declares]
  have texts : ∀ c ∈ spelledCalls, ∀ edit ∈ c.edits, ∀ verb ∈ edit.verbs,
      verb.display?.isSome = true := by
    simp [spelledCalls, Call.edits, Edit.verbs, Value.display?]
  have made : spelledCalls.foldl (fun r c => (r.call c).registry) .empty = spelledBooks := by
    decide +kernel
  obtain ⟨-, found⟩ := find?_any_spelling declare texts made
  rw [history_spelledCalls] at found
  have posted := (found (.str "/books") "POST").1 0 (bookEndpoint ["get", "post"])
  have deleted := (found (.str "/books") "Delete").1 1 (bookEndpoint ["post", "patch", "delete"])
  refine ⟨posted.mpr ⟨rfl, ⟨_, rfl, by decide +kernel⟩, by simp⟩,
    deleted.mpr ⟨rfl, ⟨_, rfl, by decide +kernel⟩, ?_⟩,
    (found (.str "/books") "put").2.mpr (by decide +kernel)⟩
  intro j earlier edits there
  obtain rfl : j = 0 := by omega
  cases there
  decide +kernel

end Registry

end ApiContract
