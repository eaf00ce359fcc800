import Abacus.Proofs.Labels
import Abacus.Proofs.SessionMap
import Abacus.Service

/-!
# Requests — what a request can do to a service

Which change a request asks for is decided by the request alone: by its route, its method and its body.
The service then makes the change or leaves everything as it was.

* `Service.Command`, `Request.command?` — the change that a request asks for;
* `Service.execute` — what a command changes;
* `Service.next_eq` — the service after a request is the service after its command;
* `Service.get?_execute_press`, `Service.get?_execute_delete` — what a command does to one session;
* `Service.answer_congr` — the answer to a request depends on the session that it addresses.
-/

namespace Abacus

namespace Service

/-! ## Requests -/

namespace Request

/-- The path at which a request arrives. -/
def path (r : Request) : String := (Target.ofString r.target).path

def route? (r : Request) : Option Route := Route.ofPath? r.path

/-- Methods are compared without case. -/
def verb (r : Request) : String := Text.uppercase r.method

/-- The requests that are sent to one session, to its keys or to itself. -/
def Addresses (r : Request) (id : String) : Prop :=
  r.route? = some (.session id) ∨ r.route? = some (.keys id)

end Request

/-- The keys that a body asks for, if all that it names are labels of keys. -/
def keysOf? (body : Option Document) : Option (List Key) :=
  match readKeys body with
  | .ok labels => if labels.all Key.isLabel then some (labels.filterMap Key.ofLabel?) else none
  | .error _ => none

/-- The changes that requests can ask for. -/
inductive Command
  | create
  | press (id : String) (keys : List Key)
  | delete (id : String)
  deriving DecidableEq

def Request.command? (r : Request) : Option Command :=
  match r.route? with
  | some .sessions => if r.verb = "POST" then some .create else none
  | some (.session id) => if r.verb = "DELETE" then some (.delete id) else none
  | some (.keys id) => if r.verb = "POST" then (keysOf? r.body).map (.press id) else none
  | _ => none

/-- What each command takes: a route, a method, and for keys a body of labels. -/
theorem Request.command?_cases {r : Request} {command : Command}
    (h : r.command? = some command) :
    (command = .create ∧ r.route? = some .sessions ∧ r.verb = "POST") ∨
    (∃ id, command = .delete id ∧ r.route? = some (.session id) ∧ r.verb = "DELETE") ∨
    (∃ id labels, command = .press id (labels.filterMap Key.ofLabel?) ∧
      r.route? = some (.keys id) ∧ r.verb = "POST" ∧ readKeys r.body = .ok labels ∧
      ∀ label ∈ labels, Key.isLabel label = true) := by
  unfold Request.command? at h
  split at h
  · rename_i hroute
    by_cases hverb : r.verb = "POST"
    · rw [if_pos hverb] at h
      cases h
      exact Or.inl ⟨rfl, hroute, hverb⟩
    · rw [if_neg hverb] at h
      cases h
  · rename_i id hroute
    by_cases hverb : r.verb = "DELETE"
    · rw [if_pos hverb] at h
      cases h
      exact Or.inr (Or.inl ⟨id, rfl, hroute, hverb⟩)
    · rw [if_neg hverb] at h
      cases h
  · rename_i id hroute
    by_cases hverb : r.verb = "POST"
    · rw [if_pos hverb, keysOf?] at h
      cases hbody : readKeys r.body with
      | error issues =>
          simp [hbody] at h
      | ok labels =>
          by_cases hall : labels.all Key.isLabel = true
          · simp only [hbody, hall, if_true, Option.map_some, Option.some.injEq] at h
            exact Or.inr (Or.inr ⟨id, labels, h.symm, hroute, hverb, rfl, List.all_eq_true.1 hall⟩)
          · simp [hbody, hall] at h
    · rw [if_neg hverb] at h
      cases h
  · cases h

/-! ## Services -/

/-- The service after a request. -/
def next (s : Service) (r : Request) : Service := (s.respond r).1

/-- The response to a request. -/
def answer (s : Service) (r : Request) : Response := (s.respond r).2

/-- The service after several requests. -/
def after (s : Service) (requests : List Request) : Service := requests.foldl next s

/-- Keys for a session that is not live, and the deletion of one, change nothing. -/
def execute (s : Service) : Command → Service
  | .create => ⟨s.settings, s.sessions.create s.settings.setup⟩
  | .press id keys =>
      match s.sessions.get? id with
      | some screen => ⟨s.settings, s.sessions.put id (screen.pressAll s.settings.setup keys)⟩
      | none => s
  | .delete id =>
      match s.sessions.delete id with
      | .ok sessions => ⟨s.settings, sessions⟩
      | .error _ => s

/-! ## The service after a request -/

variable {s t : Service} {r : Request} {id : String}

theorem dispatch_of_route {route : Route} (h : r.route? = some route) :
    s.dispatch r =
      if route.admits r.verb then s.handle route r.verb r.body
      else (s, ⟨405, .detail "Method Not Allowed"⟩) := by
  have hpath : Route.ofPath? (Target.ofString r.target).path = some route := h
  unfold dispatch
  simp only [hpath]
  rfl

theorem dispatch_of_unrouted (h : r.route? = none) :
    s.dispatch r =
      (s, if Route.isSlashed r.path then ⟨307, .nothing⟩ else ⟨404, .detail "Not Found"⟩) := by
  have hpath : Route.ofPath? (Target.ofString r.target).path = none := h
  unfold dispatch
  simp only [hpath]
  by_cases hslashed : Route.isSlashed r.path = true
  · have hsame : Route.isSlashed (Target.ofString r.target).path = true := hslashed
    rw [if_pos hslashed, if_pos hsame]
  · have hsame : ¬ Route.isSlashed (Target.ofString r.target).path = true := hslashed
    rw [if_neg hslashed, if_neg hsame]

theorem next_eq_dispatch (s : Service) (r : Request) : s.next r = (s.dispatch r).1 := by
  unfold next respond
  split
  rename_i hdispatch
  rw [hdispatch]
  split <;> rfl

theorem answer_eq (s : Service) (r : Request) :
    s.answer r =
      if r.verb = "HEAD" then ⟨(s.dispatch r).2.status, .nothing⟩ else (s.dispatch r).2 := by
  unfold answer respond Request.verb
  split
  rename_i hdispatch
  rw [hdispatch]
  split <;> rfl

theorem respond_eq_dispatch (hhead : r.verb ≠ "HEAD") : s.respond r = s.dispatch r := by
  have hnext : (s.respond r).1 = (s.dispatch r).1 := next_eq_dispatch s r
  have hanswer : (s.respond r).2 = (s.dispatch r).2 := (answer_eq s r).trans (if_neg hhead)
  exact Prod.ext hnext hanswer

/-- No route admits `HEAD`, so that a request which is admitted is answered in full. -/
theorem respond_of_admits {route : Route} (hroute : r.route? = some route)
    (hadmits : route.admits r.verb = true) : s.respond r = s.handle route r.verb r.body := by
  have hhead : r.verb ≠ "HEAD" := by
    intro hhead
    rw [hhead] at hadmits
    cases route <;> cases hadmits
  rw [respond_eq_dispatch hhead, dispatch_of_route hroute, if_pos hadmits]

/-- The check of a batch finds nothing exactly if all labels are those of keys. -/
theorem filter_unknown_eq_nil_iff {labels : List String} :
    (labels.filter fun label => !Key.isLabel label) = [] ↔
      ∀ label ∈ labels, Key.isLabel label = true := by
  rw [List.filter_eq_nil_iff]
  simp

theorem filter_unknown_ne_nil {labels : List String}
    (h : ∃ label ∈ labels, Key.isLabel label = false) :
    (labels.filter fun label => !Key.isLabel label) ≠ [] := by
  rcases h with ⟨label, hmem, hlabel⟩
  intro hnone
  have hknown := filter_unknown_eq_nil_iff.1 hnone label hmem
  rw [hlabel] at hknown
  cases hknown

theorem pressKeys_fst (s : Service) (id : String) (labels : List String) :
    (s.pressKeys id labels).1 =
      if labels.all Key.isLabel then s.execute (.press id (labels.filterMap Key.ofLabel?))
      else s := by
  unfold pressKeys
  split
  · rename_i hnone
    have hall : labels.all Key.isLabel = true :=
      List.all_eq_true.2 (filter_unknown_eq_nil_iff.1 hnone)
    rw [if_pos hall]
    cases hget : s.sessions.get? id with
    | none => simp [Sessions.get_of_missing hget, execute, hget]
    | some screen =>
        have hpressed := Screen.pressLabels_of_isLabel s.settings.setup
          (filter_unknown_eq_nil_iff.1 hnone) screen
        simp [Sessions.get_of_live hget, execute, hget, hpressed]
  · rename_i hsome
    have hall : ¬ labels.all Key.isLabel = true := fun hall =>
      hsome (filter_unknown_eq_nil_iff.2 (List.all_eq_true.1 hall))
    rw [if_neg hall]

theorem pressBody_fst (s : Service) (id : String) (body : Option Document) :
    (s.pressBody id body).1 =
      match keysOf? body with
      | some keys => s.execute (.press id keys)
      | none => s := by
  unfold pressBody keysOf?
  cases readKeys body with
  | error issues => rfl
  | ok labels =>
      dsimp only
      rw [pressKeys_fst]
      split <;> rfl

theorem deleteSession_fst (s : Service) (id : String) :
    (s.deleteSession id).1 = s.execute (.delete id) := by
  unfold deleteSession execute
  dsimp only
  cases s.sessions.delete id <;> rfl

/-- The service after a request is the service after the command of the request. -/
theorem next_eq (s : Service) (r : Request) :
    s.next r =
      match r.command? with
      | some command => s.execute command
      | none => s := by
  rw [next_eq_dispatch]
  unfold Request.command?
  cases hroute : r.route? with
  | none =>
      rw [dispatch_of_unrouted hroute]
  | some route =>
      rw [dispatch_of_route hroute]
      cases route with
      | evaluate =>
          split <;> rfl
      | health =>
          split <;> rfl
      | sessions =>
          by_cases hverb : r.verb = "POST"
          · simp [Route.admits, hverb, handle, createSession, execute]
          · simp [Route.admits, hverb]
      | session id =>
          by_cases hverb : r.verb = "DELETE"
          · simp [Route.admits, hverb, handle, deleteSession_fst]
          · simp only [Route.admits, hverb, handle, if_false]
            split <;> rfl
      | keys id =>
          by_cases hverb : r.verb = "POST"
          · simp only [Route.admits, hverb, handle, pressBody_fst, if_true, beq_self_eq_true]
            cases keysOf? r.body <;> rfl
          · simp [Route.admits, hverb]

/-! ## One session -/

theorem execute_settings (s : Service) (command : Command) :
    (s.execute command).settings = s.settings := by
  cases command with
  | create =>
      rfl
  | press id keys =>
      unfold execute
      dsimp only
      split <;> rfl
  | delete id =>
      unfold execute
      dsimp only
      split <;> rfl

theorem execute_ids (s : Service) (command : Command) :
    (s.execute command).sessions.ids = s.sessions.ids := by
  cases command with
  | create =>
      rfl
  | press id keys =>
      unfold execute
      dsimp only
      split <;> rfl
  | delete id =>
      unfold execute
      dsimp only
      cases hget : s.sessions.get? id with
      | none =>
          rw [Sessions.delete_of_missing hget]
      | some screen =>
          rcases Sessions.exists_delete_of_live hget with ⟨sessions, hdelete, hids, -⟩
          rw [hdelete]
          exact hids

/-- The number of creations never falls. -/
theorem created_le_execute (s : Service) (command : Command) :
    s.sessions.created ≤ (s.execute command).sessions.created := by
  cases command with
  | create =>
      exact Nat.le_succ _
  | press id keys =>
      unfold execute
      dsimp only
      split <;> exact Nat.le_refl _
  | delete id =>
      unfold execute
      dsimp only
      cases hget : s.sessions.get? id with
      | none =>
          rw [Sessions.delete_of_missing hget]
      | some screen =>
          rcases Sessions.exists_delete_of_live hget with ⟨sessions, hdelete, -, hcreated⟩
          rw [hdelete]
          exact hcreated.ge

theorem get?_execute_press (s : Service) (other : String) (keys : List Key) (id : String) :
    (s.execute (.press other keys)).sessions.get? id =
      if id = other then (s.sessions.get? id).map (·.pressAll s.settings.setup keys)
      else s.sessions.get? id := by
  unfold execute
  dsimp only
  cases hget : s.sessions.get? other with
  | none =>
      by_cases hid : id = other
      · simp [hid, hget]
      · rw [if_neg hid]
  | some screen =>
      dsimp only
      rw [Sessions.get?_put]
      by_cases hid : id = other
      · simp [hid, hget]
      · rw [if_neg hid, if_neg hid]

theorem get?_execute_delete (s : Service) (other id : String) :
    (s.execute (.delete other)).sessions.get? id =
      if id = other then none else s.sessions.get? id := by
  unfold execute
  dsimp only
  cases hget : s.sessions.get? other with
  | none =>
      rw [Sessions.delete_of_missing hget]
      by_cases hid : id = other
      · simp [hid, hget]
      · rw [if_neg hid]
  | some screen =>
      rcases Sessions.exists_delete_of_live hget with ⟨sessions, hdelete, -⟩
      rw [hdelete]
      exact Sessions.get?_delete hdelete id

/-! ## Answers -/

theorem pressBody_snd_congr (hsettings : s.settings = t.settings)
    (hget : s.sessions.get? id = t.sessions.get? id) (body : Option Document) :
    (s.pressBody id body).2 = (t.pressBody id body).2 := by
  unfold pressBody
  split
  · rfl
  · unfold pressKeys
    split
    · rw [Sessions.get, Sessions.get, hget, hsettings]
      cases t.sessions.get? id with
      | none =>
          rfl
      | some screen =>
          dsimp only
          split <;> rfl
    · rfl

theorem deleteSession_snd_congr (hget : s.sessions.get? id = t.sessions.get? id) :
    (s.deleteSession id).2 = (t.deleteSession id).2 := by
  unfold deleteSession Sessions.delete
  rw [hget]
  cases t.sessions.get? id <;> rfl

theorem showSession_congr (hget : s.sessions.get? id = t.sessions.get? id) :
    s.showSession id = t.showSession id := by
  unfold showSession Sessions.get
  rw [hget]

/-- Requests to a session are answered alike by services that agree on it. -/
theorem answer_congr (haddress : r.Addresses id) (hsettings : s.settings = t.settings)
    (hget : s.sessions.get? id = t.sessions.get? id) : s.answer r = t.answer r := by
  have hdispatch : (s.dispatch r).2 = (t.dispatch r).2 := by
    rcases haddress with hroute | hroute
    · rw [dispatch_of_route hroute, dispatch_of_route hroute]
      split
      · unfold handle
        dsimp only
        split
        · exact deleteSession_snd_congr hget
        · exact showSession_congr hget
      · rfl
    · rw [dispatch_of_route hroute, dispatch_of_route hroute]
      split
      · exact pressBody_snd_congr hsettings hget r.body
      · rfl
  rw [answer_eq, answer_eq, hdispatch]

end Service

end Abacus
