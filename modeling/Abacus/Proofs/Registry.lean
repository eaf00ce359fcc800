import Abacus.Proofs.Screens
import Abacus.Proofs.SessionMap
import Mathlib.Data.List.Nodup

/-!
# Registry — sessions told from their history

Whatever is asked of sessions, and whatever is refused, the record of it says which sessions are live and
what their screens hold: those that were created and not deleted, each with the edits of it since.  The ids
may come from any source that never gives out one twice.  A screen is reached through the id of its session
alone; one that a caller has kept from a session which was deleted since shows in no later answer, and edits
of it are no operations here.

* `Sessions.Operation`, `Sessions.perform` — the operations, and what they are answered;
* `Sessions.Entry`, `Sessions.record` — the record of operations and answers;
* `Sessions.createdIds`, `Sessions.deletedIds`, `Sessions.editsOf` — what the record says;
* `Sessions.Recorded` — sessions as their record says they are;
* `Sessions.Recorded.concat` — what one more entry must say;
* `Sessions.Recorded.perform`, `Sessions.Recorded.after` — one operation, and any operations;
* `sessions_eq_record` — what the record says about all sessions after any operations.
-/

namespace Abacus

namespace Sessions

/-! ## Operations -/

/-- A call on a screen.  The mode of evaluation comes with the call. -/
structure Edit where
  strict : Bool
  call : Screen.Call

namespace Edit

def perform (setup : Setup) (edit : Edit) (screen : Screen) : Except Key.Refusal Screen :=
  screen.perform { setup with strict := edit.strict } edit.call

/-- A refused edit leaves the screen as it was. -/
def after (setup : Setup) (screen : Screen) (edit : Edit) : Screen :=
  match edit.perform setup screen with
  | .ok next => next
  | .error _ => screen

/-- The screen after any edits, from a blank screen on. -/
def run (setup : Setup) (edits : List Edit) : Screen := edits.foldl (after setup) (.blank setup)

end Edit

/-- Screens are edited through the sessions that hold them. -/
inductive Operation
  | create
  | get (id : String)
  | delete (id : String)
  | edit (id : String) (edit : Edit)

inductive Reply
  | created (id : String) (screen : Screen)
  | shown (screen : Screen)
  | deleted

inductive Refusal
  | missing (m : Missing)
  | key (refusal : Key.Refusal)

/-- The sessions after an operation, and the answer to it. -/
def perform (setup : Setup) (s : Sessions) : Operation → Sessions × Except Refusal Reply
  | .create => (s.create setup, .ok (.created s.nextId (.blank setup)))
  | .get id =>
      match s.get id with
      | .ok screen => (s, .ok (.shown screen))
      | .error m => (s, .error (.missing m))
  | .delete id =>
      match s.delete id with
      | .ok next => (next, .ok .deleted)
      | .error m => (s, .error (.missing m))
  | .edit id edit =>
      match s.get id with
      | .ok screen =>
          match edit.perform setup screen with
          | .ok next => (s.put id next, .ok (.shown next))
          | .error refusal => (s, .error (.key refusal))
      | .error m => (s, .error (.missing m))

/-! ## Records -/

structure Entry where
  operation : Operation
  answer : Except Refusal Reply

section Runs

variable (setup : Setup)

def after (s : Sessions) (operations : List Operation) : Sessions :=
  operations.foldl (fun s operation => (s.perform setup operation).1) s

def record (s : Sessions) : List Operation → List Entry
  | [] => []
  | operation :: rest =>
      ⟨operation, (s.perform setup operation).2⟩ :: record (s.perform setup operation).1 rest

end Runs

namespace Entry

/-- The id that was given out. -/
def created? (e : Entry) : Option String :=
  match e.answer with
  | .ok (.created id _) => some id
  | _ => none

/-- The id whose session was deleted. -/
def deleted? (e : Entry) : Option String :=
  match e.operation, e.answer with
  | .delete id, .ok _ => some id
  | _, _ => none

/-- The edit that reached the screen of a session. -/
def editOf? (id : String) (e : Entry) : Option Edit :=
  match e.operation, e.answer with
  | .edit _ _, .error (.missing _) => none
  | .edit other edit, _ => if other = id then some edit else none
  | _, _ => none

end Entry

def createdIds (entries : List Entry) : List String := entries.filterMap Entry.created?

def deletedIds (entries : List Entry) : List String := entries.filterMap Entry.deleted?

def editsOf (id : String) (entries : List Entry) : List Edit :=
  entries.filterMap (Entry.editOf? id)

theorem filterMap_concat {α β : Type} (f : α → Option β) (as : List α) (a : α) :
    (as ++ [a]).filterMap f = as.filterMap f ++ (f a).toList := by
  rw [List.filterMap_append]
  cases hf : f a <;> simp [hf]

theorem createdIds_concat (entries : List Entry) (e : Entry) :
    createdIds (entries ++ [e]) = createdIds entries ++ e.created?.toList :=
  filterMap_concat Entry.created? entries e

theorem deletedIds_concat (entries : List Entry) (e : Entry) :
    deletedIds (entries ++ [e]) = deletedIds entries ++ e.deleted?.toList :=
  filterMap_concat Entry.deleted? entries e

theorem editsOf_concat (id : String) (entries : List Entry) (e : Entry) :
    editsOf id (entries ++ [e]) = editsOf id entries ++ (e.editOf? id).toList :=
  filterMap_concat (Entry.editOf? id) entries e

/-! ## Live ids -/

def liveIds (s : Sessions) : List String := s.live.map Prod.fst

variable {ids : Nat → String} {setup : Setup} {s t next : Sessions} {id : String} {screen : Screen}
  {entries : List Entry} {e : Entry}

theorem get?_eq_none_iff : s.get? id = none ↔ id ∉ s.liveIds := by
  unfold get? liveIds
  rw [List.lookup_eq_none_iff]
  simp only [bne_iff_ne, List.mem_map, not_exists, not_and]
  constructor
  · intro h entry hentry hid
    exact h entry hentry hid.symm
  · intro h entry hentry hid
    exact h entry hentry hid.symm

theorem mem_liveIds_of_get? (h : s.get? id = some screen) : id ∈ s.liveIds := by
  by_contra hnot
  rw [get?_eq_none_iff.2 hnot] at h
  cases h

theorem exists_get?_of_mem (h : id ∈ s.liveIds) : ∃ screen, s.get? id = some screen := by
  cases hget : s.get? id with
  | none => exact absurd h (get?_eq_none_iff.1 hget)
  | some screen => exact ⟨screen, rfl⟩

theorem liveIds_put (s : Sessions) (id : String) (screen : Screen) :
    (s.put id screen).liveIds = s.liveIds := by
  unfold liveIds put
  rw [List.map_map]
  refine List.map_congr_left ?_
  intro entry _
  by_cases hid : entry.1 = id
  · simp [hid]
  · simp [hid]

theorem liveIds_delete (h : s.delete id = .ok next) :
    next.liveIds = s.liveIds.filter (· ≠ id) ∧ next.ids = s.ids ∧ next.created = s.created := by
  unfold delete at h
  split at h
  · cases h
    refine ⟨?_, rfl, rfl⟩
    unfold liveIds
    rw [List.filter_map]
    rfl
  · cases h

theorem liveIds_create (setup : Setup) (h : s.nextId ∉ s.liveIds) :
    (s.create setup).liveIds = s.nextId :: s.liveIds := by
  have hkept : (s.live.filter fun entry => entry.1 ≠ s.nextId) = s.live := by
    refine List.filter_eq_self.2 ?_
    intro entry hentry
    refine decide_eq_true ?_
    intro hid
    exact h (hid ▸ List.mem_map_of_mem hentry)
  rw [create, hkept]
  rfl

/-! ## Sessions and their record -/

/-- The sessions are as the record says.  Created ids are live or deleted, and not both, since none of them
is there twice. -/
structure Recorded (ids : Nat → String) (setup : Setup) (s : Sessions) (entries : List Entry) :
    Prop where
  source : s.ids = ids
  created : createdIds entries = (List.range s.created).map ids
  divided : (s.liveIds ++ deletedIds entries).Perm (createdIds entries)
  screens : ∀ id screen, s.get? id = some screen → screen = Edit.run setup (editsOf id entries)
  untouched : ∀ id, id ∉ createdIds entries → editsOf id entries = []

namespace Recorded

theorem empty (ids : Nat → String) (setup : Setup) :
    Recorded ids setup (Sessions.emptyWith ids) [] where
  source := rfl
  created := rfl
  divided := List.Perm.refl []
  screens := by
    intro id screen h
    cases h
  untouched := fun _ _ => rfl

theorem mem_created_of_live (h : Recorded ids setup s entries) (hlive : id ∈ s.liveIds) :
    id ∈ createdIds entries :=
  h.divided.subset (List.mem_append_left _ hlive)

theorem nodup_created (h : Recorded ids setup s entries) (hids : Function.Injective ids) :
    (createdIds entries).Nodup := by
  rw [h.created]
  exact List.nodup_range.map hids

theorem nodup_live (h : Recorded ids setup s entries) (hids : Function.Injective ids) :
    s.liveIds.Nodup :=
  (List.nodup_append.1 (h.divided.nodup_iff.2 (h.nodup_created hids))).1

/-- Created ids that were not deleted are live. -/
theorem mem_live_iff (h : Recorded ids setup s entries) (hids : Function.Injective ids) :
    id ∈ s.liveIds ↔ id ∈ createdIds entries ∧ id ∉ deletedIds entries := by
  have happart : s.liveIds.Disjoint (deletedIds entries) :=
    List.disjoint_of_nodup_append (h.divided.nodup_iff.2 (h.nodup_created hids))
  constructor
  · intro hlive
    exact ⟨h.mem_created_of_live hlive, fun hdeleted => happart hlive hdeleted⟩
  · rintro ⟨hcreated, hkept⟩
    exact (List.mem_append.1 (h.divided.symm.subset hcreated)).resolve_right hkept

/-! ## One operation -/

/-- One more entry, where the ids that are live and those that are given out balance. -/
theorem concat (h : Recorded ids setup s entries) (hsource : t.ids = s.ids)
    (hnumber : (List.range t.created).map ids = (List.range s.created).map ids ++ e.created?.toList)
    (hlive : (t.liveIds ++ e.deleted?.toList).Perm (s.liveIds ++ e.created?.toList))
    (hscreens : ∀ id screen, t.get? id = some screen →
      screen = Edit.run setup (editsOf id entries ++ (e.editOf? id).toList))
    (huntouched : ∀ id, id ∉ createdIds entries → e.editOf? id = none) :
    Recorded ids setup t (entries ++ [e]) := by
  constructor
  · rw [hsource, h.source]
  · rw [createdIds_concat, hnumber, h.created]
  · rw [createdIds_concat, deletedIds_concat]
    calc
      (t.liveIds ++ (deletedIds entries ++ e.deleted?.toList)).Perm
          (t.liveIds ++ e.deleted?.toList ++ deletedIds entries) := by
        rw [List.append_assoc]
        exact List.perm_append_comm.append_left _
      _ |>.Perm (s.liveIds ++ e.created?.toList ++ deletedIds entries) := hlive.append_right _
      _ |>.Perm (s.liveIds ++ deletedIds entries ++ e.created?.toList) := by
        rw [List.append_assoc, List.append_assoc]
        exact List.perm_append_comm.append_left _
      _ |>.Perm (createdIds entries ++ e.created?.toList) := h.divided.append_right _
  · intro id screen hget
    rw [editsOf_concat]
    exact hscreens id screen hget
  · intro id hid
    have hold : id ∉ createdIds entries := by
      intro hmem
      rw [createdIds_concat] at hid
      exact hid (List.mem_append_left _ hmem)
    rw [editsOf_concat, h.untouched id hold, huntouched id hold]
    rfl

/-- An entry that says nothing about any session leaves all as it was. -/
theorem of_unchanged (h : Recorded ids setup s entries) (hcreated : e.created? = none)
    (hdeleted : e.deleted? = none) (hedits : ∀ id, e.editOf? id = none) :
    Recorded ids setup s (entries ++ [e]) := by
  refine h.concat rfl ?_ ?_ ?_ fun id _ => hedits id
  · rw [hcreated, Option.toList_none, List.append_nil]
  · rw [hcreated, hdeleted]
  · intro id screen hget
    rw [hedits, Option.toList_none, List.append_nil]
    exact h.screens id screen hget

theorem create (h : Recorded ids setup s entries) (hids : Function.Injective ids) :
    Recorded ids setup (s.create setup)
      (entries ++ [⟨.create, .ok (.created s.nextId (.blank setup))⟩]) := by
  have hnext : s.nextId = ids s.created := by rw [nextId, h.source]
  have hnew : s.nextId ∉ createdIds entries := by
    rw [h.created]
    intro hmem
    rcases List.mem_map.1 hmem with ⟨n, hn, hsame⟩
    rw [hnext] at hsame
    rw [hids hsame, List.mem_range] at hn
    exact Nat.lt_irrefl _ hn
  refine h.concat rfl ?_ ?_ ?_ fun _ _ => rfl
  · simp [Sessions.create, hnext, List.range_succ, Entry.created?]
  · have hlast : (s.nextId :: s.liveIds).Perm (s.liveIds ++ [s.nextId]) :=
      (List.perm_append_singleton _ _).symm
    rw [← liveIds_create setup fun hlive => hnew (h.mem_created_of_live hlive)] at hlast
    exact (List.Perm.of_eq (List.append_nil _)).trans hlast
  · intro id screen hget
    change screen = Edit.run setup (editsOf id entries ++ [])
    rw [get?_create] at hget
    rw [List.append_nil]
    by_cases hid : id = s.nextId
    · -- No edit has reached the new session yet.
      rw [if_pos hid] at hget
      cases hget
      rw [hid, h.untouched _ hnew]
      rfl
    · rw [if_neg hid] at hget
      exact h.screens id screen hget

theorem delete (h : Recorded ids setup s entries) (hids : Function.Injective ids)
    (hget : s.get? id = some screen) (hnext : s.delete id = .ok next) :
    Recorded ids setup next (entries ++ [⟨.delete id, .ok .deleted⟩]) := by
  rcases liveIds_delete hnext with ⟨hlive, hsource, hnumber⟩
  have hgone : s.liveIds.Perm (id :: next.liveIds) := by
    have hperm := List.perm_cons_erase (mem_liveIds_of_get? hget)
    rw [(h.nodup_live hids).erase_eq_filter id] at hperm
    simpa [hlive, bne, beq_eq_decide] using hperm
  refine h.concat hsource ?_ ?_ ?_ fun _ _ => rfl
  · rw [hnumber]
    exact (List.append_nil _).symm
  · -- The id goes from the live ones to the deleted ones.
    calc
      (next.liveIds ++ [id]).Perm (id :: next.liveIds) := List.perm_append_singleton id _
      _ |>.Perm s.liveIds := hgone.symm
      _ |>.Perm (s.liveIds ++ []) := by rw [List.append_nil]
  · intro other screen hother
    change screen = Edit.run setup (editsOf other entries ++ [])
    rw [get?_delete hnext] at hother
    rw [List.append_nil]
    by_cases hid : other = id
    · rw [if_pos hid] at hother
      cases hother
    · rw [if_neg hid] at hother
      exact h.screens other screen hother

/-- An edit that reaches the screen of one session leaves those of the others as they were. -/
theorem of_edit (h : Recorded ids setup s entries) (hget : s.get? id = some screen)
    {edit : Edit} (hsource : t.ids = s.ids) (hnumber : t.created = s.created)
    (hlive : t.liveIds = s.liveIds)
    (hscreens : ∀ other, t.get? other =
      if other = id then some (Edit.after setup screen edit) else s.get? other)
    (hcreated : e.created? = none) (hdeleted : e.deleted? = none)
    (hedits : ∀ other, e.editOf? other = if id = other then some edit else none) :
    Recorded ids setup t (entries ++ [e]) := by
  refine h.concat hsource ?_ ?_ ?_ ?_
  · rw [hnumber, hcreated, Option.toList_none, List.append_nil]
  · rw [hlive, hcreated, hdeleted]
  · intro other found hfound
    rw [hscreens] at hfound
    rw [hedits]
    by_cases hid : other = id
    · subst hid
      rw [if_pos rfl] at hfound
      cases hfound
      rw [if_pos rfl, h.screens other screen hget, Edit.run, Edit.run, Option.toList_some,
        List.foldl_append]
      rfl
    · rw [if_neg hid] at hfound
      rw [if_neg (Ne.symm hid), Option.toList_none, List.append_nil]
      exact h.screens other found hfound
  · intro other hother
    -- The session that the edit reaches is live, and so it was created.
    have hid : id ≠ other := by
      rintro rfl
      exact hother (h.mem_created_of_live (mem_liveIds_of_get? hget))
    rw [hedits, if_neg hid]

theorem edit (h : Recorded ids setup s entries) (hget : s.get? id = some screen) (edit : Edit) :
    Recorded ids setup (s.perform setup (.edit id edit)).1
      (entries ++ [⟨.edit id edit, (s.perform setup (.edit id edit)).2⟩]) := by
  simp only [Sessions.perform, get_of_live hget]
  cases hedit : edit.perform setup screen with
  | error refusal =>
      have hafter : Edit.after setup screen edit = screen := by
        simp only [Edit.after, hedit]
      refine h.of_edit hget rfl rfl rfl ?_ rfl rfl fun _ => rfl
      intro other
      by_cases hid : other = id
      · rw [if_pos hid, hafter, hid, hget]
      · rw [if_neg hid]
  | ok edited =>
      have hafter : Edit.after setup screen edit = edited := by
        simp only [Edit.after, hedit]
      refine h.of_edit hget rfl rfl (liveIds_put s id edited) ?_ rfl rfl fun _ => rfl
      intro other
      rw [get?_put, hget, hafter]
      rfl

/-- Every operation keeps the sessions as the record says they are. -/
theorem perform (h : Recorded ids setup s entries) (hids : Function.Injective ids)
    (operation : Operation) :
    Recorded ids setup (s.perform setup operation).1
      (entries ++ [⟨operation, (s.perform setup operation).2⟩]) := by
  cases operation with
  | create =>
      exact h.create hids
  | get id =>
      cases hget : s.get id with
      | ok screen =>
          simp only [Sessions.perform, hget]
          exact h.of_unchanged rfl rfl fun _ => rfl
      | error m =>
          simp only [Sessions.perform, hget]
          exact h.of_unchanged rfl rfl fun _ => rfl
  | delete id =>
      cases hget : s.get? id with
      | none =>
          simp only [Sessions.perform, delete_of_missing hget]
          exact h.of_unchanged rfl rfl fun _ => rfl
      | some screen =>
          rcases exists_delete_of_live hget with ⟨next, hnext, -, -⟩
          simp only [Sessions.perform, hnext]
          exact h.delete hids hget hnext
  | edit id edit =>
      cases hget : s.get? id with
      | none =>
          simp only [Sessions.perform, get_of_missing hget]
          exact h.of_unchanged rfl rfl fun _ => rfl
      | some screen =>
          exact h.edit hget edit

/-! ## Any operations -/

theorem after (h : Recorded ids setup s entries) (hids : Function.Injective ids)
    (operations : List Operation) :
    Recorded ids setup (s.after setup operations) (entries ++ s.record setup operations) := by
  induction operations generalizing s entries with
  | nil =>
      rw [record, List.append_nil]
      exact h
  | cons operation rest ih =>
      have hrest := ih (h.perform hids operation)
      rw [List.append_assoc] at hrest
      exact hrest

end Recorded

/-- A refused operation leaves all sessions as they were. -/
theorem perform_of_refused {operation : Operation} {refusal : Refusal}
    (h : (s.perform setup operation).2 = .error refusal) :
    (s.perform setup operation).1 = s := by
  cases operation with
  | create =>
      cases h
  | get id =>
      cases hget : s.get id with
      | ok screen => simp only [perform, hget]
      | error m => simp only [perform, hget]
  | delete id =>
      cases hdelete : s.delete id with
      | ok next =>
          simp only [perform, hdelete] at h
          cases h
      | error m =>
          simp only [perform, hdelete]
  | edit id edit =>
      cases hget : s.get id with
      | ok screen =>
          cases hedit : edit.perform setup screen with
          | ok next =>
              simp only [perform, hget, hedit] at h
              cases h
          | error m =>
              simp only [perform, hget, hedit]
      | error m =>
          simp only [perform, hget]

end Sessions

/-- With ids that are never given out twice, the record of any operations tells the sessions: the created ids
all differ, those of them that were not deleted are live, with the screens to which the edits of them lead,
and every other id is refused.  A refused operation changes nothing. -/
theorem sessions_eq_record {ids : Nat → String} (hids : Function.Injective ids) (setup : Setup)
    (operations : List Sessions.Operation) :
    let s := (Sessions.emptyWith ids).after setup operations
    let entries := (Sessions.emptyWith ids).record setup operations
    let created := Sessions.createdIds entries
    let deleted := Sessions.deletedIds entries
    created.Nodup ∧ s.size + deleted.length = created.length ∧
      (∀ id, id ∈ created → id ∉ deleted →
        s.get id = .ok (Sessions.Edit.run setup (Sessions.editsOf id entries)) ∧
          ∃ next, s.delete id = .ok next) ∧
      (∀ id, ¬ (id ∈ created ∧ id ∉ deleted) → s.get id = .error ⟨id⟩ ∧ s.delete id = .error ⟨id⟩) ∧
      ∀ operation refusal, (s.perform setup operation).2 = .error refusal →
        (s.perform setup operation).1 = s := by
  intro s entries created deleted
  have h : Sessions.Recorded ids setup s entries :=
    (Sessions.Recorded.empty ids setup).after hids operations
  refine ⟨h.nodup_created hids, ?_, ?_, ?_, ?_⟩
  · have hlength := h.divided.length_eq
    rw [List.length_append, Sessions.liveIds, List.length_map] at hlength
    exact hlength
  · intro id hcreated hkept
    rcases Sessions.exists_get?_of_mem ((h.mem_live_iff hids).2 ⟨hcreated, hkept⟩) with ⟨screen, hget⟩
    rcases Sessions.exists_delete_of_live hget with ⟨next, hnext, -⟩
    refine ⟨?_, next, hnext⟩
    rw [Sessions.get_of_live hget, h.screens id screen hget]
  · intro id hnot
    have hget : s.get? id = none := by
      rw [Sessions.get?_eq_none_iff, h.mem_live_iff hids]
      exact hnot
    exact ⟨Sessions.get_of_missing hget, Sessions.delete_of_missing hget⟩
  · intro operation refusal hrefused
    exact Sessions.perform_of_refused hrefused

/-- Two sessions are created, one of them is deleted, and the other is edited after a refusal. -/
theorem sessions_eq_record_numbered :
    let operations : List Sessions.Operation :=
      [.create, .create, .edit "s1" ⟨false, .press "7"⟩, .get "s3", .delete "s1", .delete "s1",
        .edit "s2" ⟨true, .append "="⟩, .edit "s2" ⟨true, .press "5"⟩]
    let s := Sessions.empty.after {} operations
    let entries := Sessions.empty.record {} operations
    Function.Injective Sessions.numbered ∧ Sessions.createdIds entries = ["s1", "s2"] ∧
      Sessions.deletedIds entries = ["s1"] ∧ s.size = 1 ∧
      s.get "s2" = .ok ⟨"5", "5", false, none⟩ ∧ s.delete "s1" = .error ⟨"s1"⟩ := by
  intro operations s entries
  have hcreated : Sessions.createdIds entries = ["s1", "s2"] := by decide +kernel
  have hdeleted : Sessions.deletedIds entries = ["s1"] := by decide +kernel
  have hscreen : Sessions.Edit.run {} (Sessions.editsOf "s2" entries) = ⟨"5", "5", false, none⟩ := by
    rfl
  obtain ⟨-, hsize, hlive, hmissing, -⟩ :=
    sessions_eq_record Sessions.numbered_injective {} operations
  have hone : s.size = 1 := by
    have hlengths : s.size + (Sessions.deletedIds entries).length =
        (Sessions.createdIds entries).length := hsize
    rw [hcreated, hdeleted] at hlengths
    exact Nat.succ.inj hlengths
  have hget : s.get "s2" = .ok (Sessions.Edit.run {} (Sessions.editsOf "s2" entries)) := by
    refine (hlive "s2" ?_ ?_).1
    · change "s2" ∈ Sessions.createdIds entries
      simp [hcreated]
    · change "s2" ∉ Sessions.deletedIds entries
      simp [hdeleted]
  have hgone : s.delete "s1" = .error ⟨"s1"⟩ := by
    refine (hmissing "s1" ?_).2
    rintro ⟨-, hkept⟩
    have hmem : "s1" ∈ Sessions.deletedIds entries := by simp [hdeleted]
    exact hkept hmem
  exact ⟨Sessions.numbered_injective, hcreated, hdeleted, hone, hget.trans (congrArg _ hscreen), hgone⟩

end Abacus
