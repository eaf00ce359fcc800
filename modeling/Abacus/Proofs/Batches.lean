import Abacus.Proofs.Lines
import Abacus.Proofs.Quotations
import Abacus.Proofs.Requests
import Abacus.Proofs.Screens

/-!
# Batches — keys that are sent together

A batch of keys is checked as a whole before the first key is pressed, so it is pressed to its end or not
at all:

* `Route.ofPath?_keys` — the path of a session's keys;
* `Service.IsState`, `Service.exists_isState` — how the document of a session tells its screen;
* `Service.pressKeys_of_unknown`, `Service.pressKeys_of_missing`, `Service.pressKeys_of_live` — the
  three answers;
* `batch_all_or_nothing` — what a batch does, in every state of the service.
-/

namespace Abacus

/-! ## Paths -/

namespace Service

theorem segments_keys {id : String} (hid : '/' ∉ id.toList) :
    segments ("/calculator/sessions/" ++ id ++ "/keys").toList =
      [[], "calculator".toList, "sessions".toList, id.toList, "keys".toList] := by
  have hslash : id.toList.any (· == '/') = false := Text.any_eq_false_of_not_mem hid
  have htext : ("/calculator/sessions/" ++ id ++ "/keys").toList =
      [] ++ '/' :: ("calculator".toList ++ '/' :: ("sessions".toList ++ '/' ::
        (id.toList ++ '/' :: "keys".toList))) := by
    rw [String.toList_append, String.toList_append]
    simp
  unfold segments
  rw [htext, Text.splitWhere_append rfl (by decide), Text.splitWhere_append rfl (by decide),
    Text.splitWhere_append rfl (by decide), Text.splitWhere_append rfl hslash,
    Text.splitWhere_of_none (by decide)]

theorem Route.ofPath?_keys {id : String} (hne : id ≠ "") (hid : '/' ∉ id.toList) :
    Route.ofPath? ("/calculator/sessions/" ++ id ++ "/keys") = some (.keys id) := by
  have hsegment : id.toList ≠ [] := fun hnil => hne (String.toList_eq_nil_iff.1 hnil)
  unfold Route.ofPath?
  rw [segments_keys hid]
  simp [Route.ofSegments?, isEnd, hsegment]

end Service

/-! ## Documents -/

namespace Service

/-- How the fields of a state tell a screen. -/
structure IsState (fields : List (String × Document)) (screen : Screen) : Prop where
  names : fields.map Prod.fst = ["expression", "display", "fresh_input", "last_outcome"]
  expression : fields.lookup "expression" = some (.text screen.expression)
  display : fields.lookup "display" = some (.text screen.display)
  fresh : fields.lookup "fresh_input" = some (.bool screen.fresh)
  unset : screen.last = none → fields.lookup "last_outcome" = some .null
  success : ∀ value, screen.last = some (.ok value) →
    fields.lookup "last_outcome" =
      some (.record [("status", .text "ok"), ("value", .number value)])
  failure : ∀ fault, screen.last = some (.error fault) →
    ∃ position, fields.lookup "last_outcome" =
        some (.record [("status", .text "error"), ("error", .record [("kind", .text fault.kind.name),
          ("message", .text fault.message), ("position", position)])]) ∧
      (fault.position = none → position = .null) ∧
      ∀ p : Nat, fault.position = some p → position = .whole p

theorem exists_isState (screen : Screen) :
    ∃ fields, screenDocument screen = .record fields ∧ IsState fields screen := by
  refine ⟨_, rfl, rfl, rfl, rfl, rfl, ?_, ?_, ?_⟩
  · intro hlast
    rw [hlast]
    rfl
  · intro value hlast
    rw [hlast]
    rfl
  · intro fault hlast
    refine ⟨.ofOption (fun p => .whole (Int.ofNat p)) fault.position, ?_, ?_, ?_⟩
    · rw [hlast]
      rfl
    · intro hposition
      rw [hposition]
      rfl
    · intro p hposition
      rw [hposition]
      rfl

end Service

/-! ## Answers -/

namespace Service

variable {s : Service} {id : String} {labels : List String} {screen : Screen} {r : Request}

theorem unsupported_eq (unknown : List String) :
    "Unsupported keys: [" ++ ", ".intercalate (unknown.map Text.quote) ++ "]" =
      "Unsupported keys: " ++ Text.quoteList unknown := by
  have hopening : "Unsupported keys: " ++ "[" = "Unsupported keys: [" := rfl
  rw [Text.quoteList, ← String.append_assoc, ← String.append_assoc, hopening]

theorem pressKeys_of_unknown (hunknown : ∃ label ∈ labels, Key.isLabel label = false) :
    s.pressKeys id labels =
      (s, ⟨422, .detail ("Unsupported keys: [" ++ ", ".intercalate
        ((labels.filter fun label => !Key.isLabel label).map Text.quote) ++ "]")⟩) := by
  rw [unsupported_eq]
  unfold pressKeys
  split
  · rename_i hnone
    exact absurd hnone (filter_unknown_ne_nil hunknown)
  · rfl

theorem pressKeys_of_missing (hall : ∀ label ∈ labels, Key.isLabel label = true)
    (hget : s.sessions.get? id = none) :
    s.pressKeys id labels = (s, ⟨404, .detail s!"Session not found: {id}"⟩) := by
  unfold pressKeys
  rw [filter_unknown_eq_nil_iff.2 hall, Sessions.get_of_missing hget]
  rfl

theorem pressKeys_of_live (hall : ∀ label ∈ labels, Key.isLabel label = true)
    (hget : s.sessions.get? id = some screen) {pressed : Screen}
    (hpressed : labels.foldlM (Screen.pressLabel s.settings.setup) screen = .ok pressed) :
    s.pressKeys id labels =
      (⟨s.settings, s.sessions.put id pressed⟩, ⟨200, .session id pressed⟩) := by
  unfold pressKeys
  rw [filter_unknown_eq_nil_iff.2 hall, Sessions.get_of_live hget]
  dsimp only
  rw [Screen.pressLabels_of_foldlM hpressed]

/-! ## Batches -/

/-- A request to press labels on the keypad of a session. -/
structure Request.IsBatch (r : Request) (id : String) (labels : List String) : Prop where
  verb : r.verb = "POST"
  path : r.path = "/calculator/sessions/" ++ id ++ "/keys"
  id_ne_empty : id ≠ ""
  segment : '/' ∉ id.toList
  body : ∃ fields, r.body = some (.record fields) ∧
    fields.lookup "keys" = some (.list (labels.map Document.text))
  labels_ne_nil : labels ≠ []

theorem readTexts_map_text (field : String) (start : Nat) (labels : List String) :
    readTexts field start (labels.map Document.text) = .ok labels := by
  induction labels generalizing start with
  | nil =>
      rfl
  | cons label labels ih =>
      rw [List.map_cons, readTexts, ih]
      rfl

namespace Request.IsBatch

theorem route?_eq (h : r.IsBatch id labels) : r.route? = some (.keys id) := by
  unfold Request.route?
  rw [h.path, Route.ofPath?_keys h.id_ne_empty h.segment]

theorem readKeys_eq (h : r.IsBatch id labels) : readKeys r.body = .ok labels := by
  rcases h.body with ⟨fields, hbody, hkeys⟩
  have hfield : bodyField "keys" r.body = .ok (.list (labels.map Document.text)) := by
    rw [hbody, bodyField, hkeys]
  unfold readKeys
  rw [hfield, ok_bind]
  -- An empty list has an issue of its own.
  cases labels with
  | nil =>
      exact absurd rfl h.labels_ne_nil
  | cons label labels =>
      exact readTexts_map_text "keys" 0 (label :: labels)

theorem respond_eq (h : r.IsBatch id labels) (s : Service) : s.respond r = s.pressKeys id labels := by
  have hadmits : (Route.keys id).admits r.verb = true := by
    rw [h.verb]
    rfl
  rw [respond_of_admits h.route?_eq hadmits]
  unfold handle pressBody
  rw [h.readKeys_eq]

theorem next_eq_execute (h : r.IsBatch id labels)
    (hall : ∀ label ∈ labels, Key.isLabel label = true) (s : Service) :
    s.next r = s.execute (.press id (labels.filterMap Key.ofLabel?)) := by
  have hlabels : labels.all Key.isLabel = true := List.all_eq_true.2 hall
  unfold Service.next
  rw [h.respond_eq, pressKeys_fst, if_pos hlabels]

end Request.IsBatch

theorem execute_press_append (s : Service) (id : String) (keys more : List Key) :
    (s.execute (.press id keys)).execute (.press id more) = s.execute (.press id (keys ++ more)) := by
  cases hget : s.sessions.get? id with
  | none =>
      simp [execute, hget]
  | some screen =>
      simp [execute, hget, Sessions.get?_put, Sessions.put_put, Screen.pressAll_append]

end Service

/-- A batch with an unknown label is refused with the list of these, and changes nothing, whether or not
the session is live.  Otherwise it changes nothing if the session is not live, and else presses all its
keys in order on this session alone, none of which is refused, and shows the screen that they lead to.
The list stands for no other labels.  The check knows exactly the labels that pressing refuses, and two
batches after another are one. -/
theorem batch_all_or_nothing {r : Service.Request} {id : String} {labels : List String}
    (hbatch : r.IsBatch id labels) (s : Service) :
    ((∃ label ∈ labels, Key.isLabel label = false) →
      ∃ (unknown : List String) (text : String),
        unknown = (labels.filter fun label => !Key.isLabel label) ∧
          text = "Unsupported keys: [" ++ ", ".intercalate (unknown.map Text.quote) ++ "]" ∧
          s.respond r = (s, ⟨422, .detail text⟩) ∧
          (s.answer r).content.document? = some (.record [("detail", .text text)]) ∧
          (∀ others, text = "Unsupported keys: " ++ Text.quoteList others → others = unknown) ∧
          ∀ label ∈ unknown,
            (∀ c ∈ label.toList, Text.isPrintable c = true ∧ c ≠ '\'' ∧ c ≠ '\\') →
              Text.quote label = "'" ++ label ++ "'") ∧
    ((∀ label ∈ labels, Key.isLabel label = true) → s.sessions.get? id = none →
      s.respond r = (s, ⟨404, .detail ("Session not found: " ++ id)⟩) ∧
        (s.answer r).content.document? =
          some (.record [("detail", .text ("Session not found: " ++ id))])) ∧
    (∀ screen, (∀ label ∈ labels, Key.isLabel label = true) →
      s.sessions.get? id = some screen →
        ∃ pressed fields, labels.foldlM (Screen.pressLabel s.settings.setup) screen = .ok pressed ∧
          s.answer r = ⟨200, .session id pressed⟩ ∧
          (s.answer r).content.document? =
            some (.record [("session_id", .text id), ("state", .record fields)]) ∧
          Service.IsState fields pressed ∧
          (s.next r).settings = s.settings ∧
          ∀ other, (s.next r).sessions.get? other =
            if other = id then some pressed else s.sessions.get? other) ∧
    (∀ label, (Key.isLabel label = true ↔ label ∈ Key.labels) ∧
      ∀ (setup : Setup) (screen : Screen),
        ((∃ refusal, screen.pressLabel setup label = .error refusal) ↔ Key.isLabel label = false) ∧
        (Key.isLabel label = false → screen.after setup (.press label) = screen)) ∧
    ∀ (more : List String) (r' whole : Service.Request), r'.IsBatch id more →
      whole.IsBatch id (labels ++ more) → (∀ label ∈ labels ++ more, Key.isLabel label = true) →
        (s.next r).next r' = s.next whole := by
  refine ⟨?_, ?_, ?_, ?_, ?_⟩
  · intro hunknown
    have hrespond := (hbatch.respond_eq s).trans (Service.pressKeys_of_unknown hunknown)
    refine ⟨_, _, rfl, rfl, hrespond, ?_, ?_, ?_⟩
    · rw [Service.answer, hrespond]
      rfl
    · intro others htext
      rw [Service.unsupported_eq, String.append_right_inj] at htext
      exact (Text.quoteList_injective htext).symm
    · intro label _ hplain
      exact Text.quote_of_printable hplain
  · intro hall hget
    have hrespond := (hbatch.respond_eq s).trans (Service.pressKeys_of_missing hall hget)
    refine ⟨hrespond, ?_⟩
    rw [Service.answer, hrespond]
    rfl
  · intro screen hall hget
    have hpressed := Screen.foldlM_pressLabel s.settings.setup hall screen
    have hrespond : s.respond r = _ :=
      (hbatch.respond_eq s).trans (Service.pressKeys_of_live hall hget hpressed)
    rcases Service.exists_isState (screen.pressAll s.settings.setup (labels.filterMap Key.ofLabel?))
      with ⟨fields, hdocument, hfields⟩
    refine ⟨_, fields, hpressed, ?_, ?_, hfields, ?_, ?_⟩
    · rw [Service.answer, hrespond]
    · rw [Service.answer, hrespond, Service.Content.document?, hdocument]
    · rw [Service.next, hrespond]
    · intro other
      rw [Service.next, hrespond, Sessions.get?_put, hget]
      rfl
  · intro label
    refine ⟨Key.isLabel_iff, ?_⟩
    intro setup screen
    refine ⟨Screen.pressLabel_eq_error_iff, ?_⟩
    intro hlabel
    rcases Screen.pressLabel_eq_error_iff.2 hlabel with ⟨refusal, hrefusal⟩
    have hperform : screen.perform setup (.press label) = .error refusal := hrefusal
    rw [Screen.after, hperform]
  · intro more r' whole hmore hwhole hall
    have hfront : ∀ label ∈ labels, Key.isLabel label = true := fun label hlabel =>
      hall label (List.mem_append_left more hlabel)
    have hback : ∀ label ∈ more, Key.isLabel label = true := fun label hlabel =>
      hall label (List.mem_append_right labels hlabel)
    rw [hbatch.next_eq_execute hfront, hmore.next_eq_execute hback, hwhole.next_eq_execute hall,
      Service.execute_press_append, List.filterMap_append]

/-- The last key computes the sum of the others, on the only session of a service. With foreign labels
among them the keys are refused, and one of these labels is listed in double quotes. -/
theorem batch_all_or_nothing_sum :
    let s : Service := ⟨{}, Sessions.empty.create {}⟩
    let send (labels : List String) : Service.Request := ⟨"POST", "/calculator/sessions/s1/keys",
      some (.record [("keys", .list (labels.map .text))])⟩
    let sum := ["1", "+", "2", "="]
    let mixed := ["1", "x", "+", "it's", "x", "="]
    let three : Binary64 := .finite false ⟨4613937818241073152, by decide⟩
    (send sum).IsBatch "s1" sum ∧ (send mixed).IsBatch "s1" mixed ∧
      (∃ pressed, s.answer (send sum) = ⟨200, .session "s1" pressed⟩ ∧
        (s.next (send sum)).sessions.get? "s1" = some pressed ∧ pressed.display = "3.0" ∧
        ∃ fields, (s.answer (send sum)).content.document? =
            some (.record [("session_id", .text "s1"), ("state", .record fields)]) ∧
          fields.lookup "expression" = some (.text "3.0") ∧
          fields.lookup "fresh_input" = some (.bool true) ∧
          fields.lookup "last_outcome" =
            some (.record [("status", .text "ok"), ("value", .number three)])) ∧
      s.next (send mixed) = s ∧ (s.answer (send mixed)).status = 422 ∧
      (s.answer (send mixed)).content.document? =
        some (.record [("detail", .text "Unsupported keys: ['x', \"it's\", 'x']")]) := by
  intro s send sum mixed three
  have hpath (labels : List String) :
      (send labels).path = "/calculator/sessions/" ++ "s1" ++ "/keys" := by
    have hsame : (send labels).path = (send []).path := rfl
    rw [hsame]
    decide +kernel
  have hverb : Text.uppercase "POST" = "POST" := by decide +kernel
  have hbatch (labels : List String) (hne : labels ≠ []) : (send labels).IsBatch "s1" labels :=
    ⟨hverb, hpath labels, by decide, by decide, ⟨_, rfl, rfl⟩, hne⟩
  have hsum := hbatch sum (by decide)
  have hmixed := hbatch mixed (by decide)
  refine ⟨hsum, hmixed, ?_, ?_⟩
  · have hall : ∀ label ∈ sum, Key.isLabel label = true := by decide +kernel
    rcases (batch_all_or_nothing hsum s).2.2.1 (.blank {}) hall rfl with
      ⟨pressed, fields, hpressed, hanswer, hdocument, hfields, -, hsessions⟩
    have hstate : (sum.foldlM (Screen.pressLabel s.settings.setup) (.blank {})).map
        (fun screen => (screen.expression, screen.display, screen.fresh, screen.last)) =
          .ok ("3.0", "3.0", true, some (.ok three)) := by decide +kernel
    rw [hpressed] at hstate
    have hparts := Except.ok.inj hstate
    simp only [Prod.mk.injEq] at hparts
    obtain ⟨hexpression, hdisplay, hfresh, hlast⟩ := hparts
    refine ⟨pressed, hanswer, ?_, hdisplay, fields, hdocument, ?_, ?_, ?_⟩
    · rw [hsessions, if_pos rfl]
    · rw [hfields.expression, hexpression]
    · rw [hfields.fresh, hfresh]
    · exact hfields.success three hlast
  · have hunknown : ∃ label ∈ mixed, Key.isLabel label = false := ⟨"x", by decide, by decide +kernel⟩
    rcases (batch_all_or_nothing hmixed s).1 hunknown with
      ⟨unknown, text, hfilter, htext, hrespond, hdocument, -, -⟩
    have hlist : text = "Unsupported keys: ['x', \"it's\", 'x']" := by
      rw [htext, hfilter]
      decide +kernel
    refine ⟨?_, ?_, ?_⟩
    · rw [Service.next, hrespond]
    · rw [Service.answer, hrespond]
    · rw [hdocument, hlist]

end Abacus
