import Abacus.Proofs.Batches

/-!
# Isolation — sessions do not interfere

A session is created under an id that is never given out again.  From then on its screen changes only
by the keys that are sent to it, whatever else the service is asked, until it is deleted; and then its
id is never live again.

* `Request.keysFor` — the keys that a request sends to a session;
* `Service.get?_next_of_live`, `Service.get?_next_of_missing` — one request;
* `Service.get?_after_of_live`, `Service.get?_after_of_missing` — any requests;
* `sessions_isolated` — a session behaves as if it were the only one.
-/

namespace Abacus

namespace Service

/-- The keys that a request sends to a session. -/
def Request.keysFor (id : String) (r : Request) : List Key :=
  match r.command? with
  | some (.press other keys) => if other = id then keys else []
  | _ => []

/-- The requests that a session has to be live for. -/
def Request.NeedsLive (id : String) (r : Request) : Prop :=
  r.route? = some (.session id) ∧ (r.verb = "GET" ∨ r.verb = "DELETE") ∨
    ∃ keys, r.command? = some (.press id keys)

/-- A service that holds a single session. -/
def alone (settings : Settings) (id : String) (screen : Screen) : Service :=
  ⟨settings, ⟨Sessions.numbered, 0, [(id, screen)]⟩⟩

variable {s : Service} {r : Request} {id : String}

theorem Request.keysFor_of_press {keys : List Key} (h : r.command? = some (.press id keys)) :
    r.keysFor id = keys := by
  unfold keysFor
  rw [h]
  exact if_pos rfl

theorem Request.keysFor_of_delete {other : String} (h : r.command? = some (.delete other)) :
    r.keysFor id = [] := by
  unfold keysFor
  rw [h]

/-! ## One request -/

theorem next_settings (s : Service) (r : Request) : (s.next r).settings = s.settings := by
  rw [next_eq]
  cases r.command? with
  | none => rfl
  | some command => exact s.execute_settings command

theorem spent_next (h : s.sessions.Spent id) (r : Request) : (s.next r).sessions.Spent id := by
  rw [next_eq]
  cases r.command? with
  | none => exact h
  | some command => exact h.mono (s.execute_ids command) (s.created_le_execute command)

theorem next_ids (s : Service) (r : Request) : (s.next r).sessions.ids = s.sessions.ids := by
  rw [next_eq]
  cases r.command? with
  | none => rfl
  | some command => exact s.execute_ids command

/-- A request that neither deletes the session nor creates one in its place changes it by the keys that it
sends to it. -/
theorem get?_next_of_live (hnew : s.sessions.Spent id ∨ r.command? ≠ some .create)
    (hkept : r.command? ≠ some (.delete id)) :
    (s.next r).sessions.get? id =
      (s.sessions.get? id).map (·.pressAll s.settings.setup (r.keysFor id)) := by
  have hsame : (s.sessions.get? id).map (·.pressAll s.settings.setup []) = s.sessions.get? id :=
    Option.map_id'
  rw [next_eq]
  unfold Request.keysFor
  match hcommand : r.command? with
  | none =>
      exact hsame.symm
  | some .create =>
      have hspent := hnew.resolve_right fun hnone => hnone hcommand
      refine (Sessions.get?_create _ _ id).trans ?_
      rw [if_neg hspent.ne_nextId]
      exact hsame.symm
  | some (.press other keys) =>
      dsimp only
      rw [get?_execute_press]
      by_cases hid : id = other
      · simp [hid]
      · rw [if_neg hid, if_neg (Ne.symm hid)]
        exact hsame.symm
  | some (.delete other) =>
      dsimp only
      have hid : id ≠ other := by
        rintro rfl
        exact hkept hcommand
      rw [get?_execute_delete, if_neg hid]
      exact hsame.symm

theorem get?_next_of_delete (h : r.command? = some (.delete id)) :
    (s.next r).sessions.get? id = none := by
  rw [next_eq, h]
  dsimp only
  rw [get?_execute_delete, if_pos rfl]

/-- An id that is spent and not live does not become live. -/
theorem get?_next_of_missing (hspent : s.sessions.Spent id) (hget : s.sessions.get? id = none)
    (r : Request) : (s.next r).sessions.get? id = none := by
  by_cases hdelete : r.command? = some (.delete id)
  · exact get?_next_of_delete hdelete
  · rw [get?_next_of_live (Or.inl hspent) hdelete, hget, Option.map_none]

/-! ## Any requests -/

theorem after_cons (s : Service) (r : Request) (requests : List Request) :
    s.after (r :: requests) = (s.next r).after requests := by
  unfold after
  rw [List.foldl_cons]

theorem after_append (s : Service) (requests more : List Request) :
    s.after (requests ++ more) = (s.after requests).after more :=
  List.foldl_append

theorem after_settings (s : Service) (requests : List Request) :
    (s.after requests).settings = s.settings := by
  induction requests generalizing s with
  | nil =>
      rfl
  | cons r requests ih =>
      rw [after_cons, ih, next_settings]

theorem after_ids (s : Service) (requests : List Request) :
    (s.after requests).sessions.ids = s.sessions.ids := by
  induction requests generalizing s with
  | nil =>
      rfl
  | cons r requests ih =>
      rw [after_cons, ih, next_ids]

theorem spent_after (h : s.sessions.Spent id) (requests : List Request) :
    (s.after requests).sessions.Spent id := by
  induction requests generalizing s with
  | nil =>
      exact h
  | cons r requests ih =>
      rw [after_cons]
      exact ih (spent_next h r)

/-- Requests that neither delete the session nor create one in its place change it by all keys that they
send to it, in order. -/
theorem get?_after_of_live {requests : List Request}
    (hnew : s.sessions.Spent id ∨ ∀ r ∈ requests, r.command? ≠ some .create)
    (hkept : ∀ r ∈ requests, r.command? ≠ some (.delete id)) :
    (s.after requests).sessions.get? id =
      (s.sessions.get? id).map
        (·.pressAll s.settings.setup (requests.flatMap (Request.keysFor id))) := by
  induction requests generalizing s with
  | nil =>
      exact Option.map_id'.symm
  | cons r requests ih =>
      have hfirst := get?_next_of_live (hnew.imp_right fun hnone => hnone r List.mem_cons_self)
        (hkept r List.mem_cons_self)
      -- Either the id stays spent, or there is no creation among the others, too.
      have hlater : (s.next r).sessions.Spent id ∨
          ∀ other ∈ requests, other.command? ≠ some .create :=
        hnew.imp (fun hspent => spent_next hspent r) fun hnone other hother =>
          hnone other (List.mem_cons_of_mem r hother)
      have hrest := ih hlater fun other hother => hkept other (List.mem_cons_of_mem r hother)
      rw [after_cons, hrest, hfirst, next_settings, List.flatMap_cons]
      cases s.sessions.get? id with
      | none => simp
      | some screen => simp [Screen.pressAll_append]

theorem get?_after_of_missing (hspent : s.sessions.Spent id)
    (hget : s.sessions.get? id = none) (requests : List Request) :
    (s.after requests).sessions.get? id = none := by
  induction requests generalizing s with
  | nil =>
      exact hget
  | cons r requests ih =>
      rw [after_cons]
      exact ih (spent_next hspent r) (get?_next_of_missing hspent hget r)

/-! ## Creations -/

theorem answer_status (s : Service) (r : Request) : (s.answer r).status = (s.dispatch r).2.status := by
  rw [answer_eq]
  by_cases hhead : r.verb = "HEAD"
  · rw [if_pos hhead]
  · rw [if_neg hhead]

/-- The answers of the other routes have other numbers. -/
theorem command?_of_created (h : (s.answer r).status = 201) : r.command? = some .create := by
  rw [answer_status] at h
  unfold Request.command?
  cases hroute : r.route? with
  | none =>
      rw [dispatch_of_unrouted hroute] at h
      by_cases hslashed : Route.isSlashed r.path = true
      · rw [if_pos hslashed] at h
        cases h
      · rw [if_neg hslashed] at h
        cases h
  | some route =>
      rw [dispatch_of_route hroute] at h
      by_cases hadmits : route.admits r.verb = true
      · rw [if_pos hadmits] at h
        cases route with
        | evaluate =>
            simp only [handle, evaluateBody] at h
            split at h <;> cases h
        | health =>
            cases h
        | sessions =>
            have hverb : r.verb = "POST" := by simpa [Route.admits] using hadmits
            simp [hverb]
        | session id =>
            simp only [handle] at h
            split at h
            · simp only [deleteSession] at h
              split at h <;> cases h
            · simp only [showSession] at h
              split at h <;> cases h
        | keys id =>
            simp only [handle, pressBody, pressKeys] at h
            split at h
            · cases h
            · split at h
              · split at h
                · split at h <;> cases h
                · cases h
              · cases h
      · rw [if_neg hadmits] at h
        cases h

theorem answer_of_create (h : r.command? = some .create) :
    s.answer r = ⟨201, .session s.sessions.nextId (.blank s.settings.setup)⟩ := by
  rcases Request.command?_cases h with ⟨-, hroute, hverb⟩ | ⟨_, hdelete, -⟩ | ⟨_, _, hpress, -⟩
  · have hadmits : Route.sessions.admits r.verb = true := by
      rw [hverb]
      rfl
    unfold answer
    rw [respond_of_admits hroute hadmits]
    rfl
  · cases hdelete
  · cases hpress

theorem next_of_created {screen : Screen} (h : s.answer r = ⟨201, .session id screen⟩) :
    s.next r = ⟨s.settings, s.sessions.create s.settings.setup⟩ ∧ id = s.sessions.nextId := by
  have hcreate : r.command? = some .create := command?_of_created (by rw [h])
  refine ⟨?_, ?_⟩
  · rw [next_eq, hcreate]
    rfl
  · rw [answer_of_create hcreate] at h
    exact (Content.session.inj (Response.mk.inj h).2).1.symm

/-- A session that was created is blank. -/
theorem get?_next_of_created {screen : Screen} (h : s.answer r = ⟨201, .session id screen⟩) :
    (s.next r).sessions.get? id = some (.blank s.settings.setup) := by
  obtain ⟨hnext, rfl⟩ := next_of_created h
  rw [hnext]
  exact (Sessions.get?_create _ _ _).trans (if_pos rfl)

/-- Its id is spent, if no id is given out twice. -/
theorem spent_next_of_created {screen : Screen} (h : s.answer r = ⟨201, .session id screen⟩)
    (hids : Function.Injective s.sessions.ids) : (s.next r).sessions.Spent id := by
  obtain ⟨hnext, rfl⟩ := next_of_created h
  rw [hnext]
  exact Sessions.spent_nextId_create hids s.settings.setup

/-! ## Sessions that are not live -/

theorem handle_session_of_missing (hget : s.sessions.get? id = none) (method : String)
    (body : Option Document) :
    s.handle (.session id) method body = (s, ⟨404, .detail s!"Session not found: {id}"⟩) := by
  unfold handle
  dsimp only
  by_cases hdelete : method = "DELETE"
  · rw [if_pos hdelete, deleteSession, Sessions.delete_of_missing hget]
    rfl
  · rw [if_neg hdelete, showSession, Sessions.get_of_missing hget]
    rfl

/-- Requests that a session has to be live for find none. -/
theorem respond_of_missing (hneeds : r.NeedsLive id) (hget : s.sessions.get? id = none) :
    s.respond r = (s, ⟨404, .detail s!"Session not found: {id}"⟩) := by
  rcases hneeds with ⟨hroute, hverb⟩ | ⟨keys, hcommand⟩
  · have hadmits : (Route.session id).admits r.verb = true := by
      rcases hverb with hverb | hverb
      · rw [hverb]
        rfl
      · rw [hverb]
        rfl
    rw [respond_of_admits hroute hadmits, handle_session_of_missing hget]
  · rcases Request.command?_cases hcommand with
      ⟨hcreate, -⟩ | ⟨_, hdelete, -⟩ | ⟨_, labels, hpress, hroute, hverb, hbody, hall⟩
    · cases hcreate
    · cases hdelete
    · cases hpress
      have hadmits : (Route.keys id).admits r.verb = true := by
        rw [hverb]
        rfl
      rw [respond_of_admits hroute hadmits]
      unfold handle pressBody
      rw [hbody]
      exact pressKeys_of_missing hall hget

end Service

/-! ## Runs -/

/-- Let no id be given out twice.  A session that was created has the screen to which the keys sent to it
lead, whatever else was asked, until it is deleted; and every request to it is answered as by a service
that holds nothing else.  Once it is deleted, it is missing for good. -/
theorem sessions_isolated {s : Service} (hids : Function.Injective s.sessions.ids)
    {before : List Service.Request} {creation : Service.Request} {id : String} {screen : Screen}
    (hcreation : (s.after before).answer creation = ⟨201, .session id screen⟩) :
    (∀ later : List Service.Request, (∀ r ∈ later, r.command? ≠ some (.delete id)) →
      let pressed := (Screen.blank s.settings.setup).pressAll s.settings.setup
        (later.flatMap (Service.Request.keysFor id))
      (s.after (before ++ creation :: later)).sessions.get? id = some pressed ∧
        ∀ r : Service.Request, r.Addresses id →
          (s.after (before ++ creation :: later)).answer r =
            (Service.alone s.settings id pressed).answer r) ∧
    ∀ (later rest : List Service.Request) (deletion : Service.Request),
      deletion.command? = some (.delete id) →
        let final := s.after (before ++ creation :: later ++ deletion :: rest)
        final.sessions.get? id = none ∧
          ∀ r : Service.Request, r.NeedsLive id →
            final.respond r = (final, ⟨404, .detail s!"Session not found: {id}"⟩) := by
  have hsource : Function.Injective (s.after before).sessions.ids := by
    rw [Service.after_ids]
    exact hids
  have hblank := Service.get?_next_of_created hcreation
  have hspent := Service.spent_next_of_created hcreation hsource
  refine ⟨?_, ?_⟩
  · intro later hkept pressed
    have hscreen : (s.after (before ++ creation :: later)).sessions.get? id = some pressed := by
      rw [Service.after_append, Service.after_cons, Service.get?_after_of_live (Or.inl hspent) hkept,
        hblank, Service.next_settings, Service.after_settings]
      rfl
    refine ⟨hscreen, ?_⟩
    intro r haddress
    refine Service.answer_congr haddress (s.after_settings _) ?_
    rw [hscreen]
    exact List.lookup_cons_self.symm
  · intro later rest deletion hdeletion final
    -- The id stays spent through all that follows its creation.
    have hlater := Service.spent_after hspent later
    have hmissing : final.sessions.get? id = none := by
      have hgone := Service.get?_after_of_missing (Service.spent_next hlater deletion)
        (Service.get?_next_of_delete hdeletion) rest
      rw [← Service.after_cons, ← Service.after_append, ← Service.after_cons,
        ← Service.after_append] at hgone
      simpa [final] using hgone
    refine ⟨hmissing, ?_⟩
    intro r hneeds
    exact Service.respond_of_missing hneeds hmissing

/-- One of two sessions is deleted between the keys of the other, which is deleted in the end. -/
theorem sessions_isolated_in_turns :
    let s : Service := ⟨{}, .empty⟩
    let creation : Service.Request := ⟨"POST", "/calculator/sessions", none⟩
    let press : Service.Request := ⟨"POST", "/calculator/sessions/s2/keys",
      some (.record [("keys", .list [.text "7", .text "+"])])⟩
    let deletion : Service.Request := ⟨"DELETE", "/calculator/sessions/s1", none⟩
    let last : Service.Request := ⟨"DELETE", "/calculator/sessions/s2", none⟩
    let later := [press, deletion, press]
    Function.Injective s.sessions.ids ∧
      (s.after [creation]).answer creation = ⟨201, .session "s2" (.blank {})⟩ ∧
      (∀ r ∈ later, r.command? ≠ some (.delete "s2")) ∧
      (s.after ([creation] ++ creation :: later)).sessions.get? "s2" =
        some ⟨"7+7+", "7+7+", false, none⟩ ∧
      last.command? = some (.delete "s2") ∧ press.NeedsLive "s2" ∧
      ((s.after ([creation] ++ creation :: later ++ last :: [creation])).respond press).2 =
        ⟨404, .detail "Session not found: s2"⟩ := by
  intro s creation press deletion last later
  have hcreate : creation.command? = some .create := by decide +kernel
  have hpress : press.command? = some (.press "s2" [.digit '7' rfl, .operator '+' rfl]) := by
    decide +kernel
  have hdelete : deletion.command? = some (.delete "s1") := by decide +kernel
  have hlast : last.command? = some (.delete "s2") := by decide +kernel
  have hneeds : press.NeedsLive "s2" := Or.inr ⟨_, hpress⟩
  have hcreation : (s.after [creation]).answer creation = ⟨201, .session "s2" (.blank {})⟩ := by
    have hid : (s.after [creation]).sessions.nextId = "s2" := by
      rw [Service.after_cons, Service.next_eq, hcreate]
      decide
    rw [Service.answer_of_create hcreate, hid, Service.after_settings]
    rfl
  have hkept : ∀ r ∈ later, r.command? ≠ some (.delete "s2") := by
    intro r hr
    rcases List.mem_cons.1 hr with rfl | hr
    · rw [hpress]
      decide
    · rcases List.mem_cons.1 hr with rfl | hr
      · rw [hdelete]
        decide
      · rw [List.mem_singleton.1 hr, hpress]
        decide
  rcases sessions_isolated (s := s) Sessions.numbered_injective hcreation with ⟨hlive, hdeleted⟩
  refine ⟨Sessions.numbered_injective, hcreation, hkept, ?_, hlast, hneeds, ?_⟩
  · rw [(hlive later hkept).1, List.flatMap_cons, List.flatMap_cons, List.flatMap_singleton,
      Service.Request.keysFor_of_press hpress, Service.Request.keysFor_of_delete hdelete]
    rfl
  · rw [(hdeleted later [creation] last hlast).2 press hneeds]
    rfl

end Abacus
