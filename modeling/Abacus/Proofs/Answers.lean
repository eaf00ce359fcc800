import Abacus.Proofs.Isolation
import Abacus.Proofs.Numerals
import Abacus.Proofs.Screens

/-!
# Answers — what a service says about values

A service reports two kinds of outcomes: those of expressions in requests, and those that screens keep.
The screens are consistent after every request, so all of them are outcomes of some text, and values of
texts are finite:

* `Document.numbers` — the numbers in a document;
* `Content.IsSound` — a content that reports outcomes of texts;
* `Service.Consistent` — the invariant of a service;
* `Service.Consistent.isSound_answer` — hence its answers are sound;
* `Content.IsSound.isFinite_of_mem` — and their numbers are finite;
* `reported_numbers_finite` — no other number is ever reported.
-/

namespace Abacus

/-! ## Documents -/

namespace Document

mutual

/-- The numbers in a document, wherever they stand, but for whole numbers, which have no infinities. -/
def numbers : Document → List Binary64
  | .number value => [value]
  | .list items => numbersOfItems items
  | .record fields => numbersOfFields fields
  | _ => []

def numbersOfItems : List Document → List Binary64
  | [] => []
  | item :: items => numbers item ++ numbersOfItems items

def numbersOfFields : List (String × Document) → List Binary64
  | [] => []
  | (_, value) :: fields => numbers value ++ numbersOfFields fields

end

end Document

namespace Service

/-! ## Contents of responses -/

theorem Issue.numbers_document (issue : Issue) : issue.document.numbers = [] := by
  cases issue <;> rfl

theorem Issue.numbersOfItems_map_document (issues : List Issue) :
    Document.numbersOfItems (issues.map Issue.document) = [] := by
  induction issues with
  | nil =>
      rfl
  | cons issue issues ih =>
      rw [List.map_cons, Document.numbersOfItems, issue.numbers_document, ih, List.nil_append]

/-- The place of a fault is a whole number. -/
theorem numbers_faultDocument (fault : Fault) : (faultDocument fault).numbers = [] := by
  unfold faultDocument
  cases fault.position <;> rfl

theorem numbers_outcomeDocument (outcome : Outcome) :
    (outcomeDocument outcome).numbers = outcome.toOption.toList := by
  cases outcome with
  | ok value =>
      rfl
  | error fault =>
      have hfault := numbers_faultDocument fault
      simp [outcomeDocument, Document.numbers, Document.numbersOfFields, hfault, Except.toOption]

theorem numbers_screenDocument (screen : Screen) :
    (screenDocument screen).numbers = (screen.last.bind Except.toOption).toList := by
  unfold screenDocument
  cases screen.last with
  | none =>
      rfl
  | some outcome =>
      have houtcome := numbers_outcomeDocument outcome
      simp [Document.ofOption, Document.numbers, Document.numbersOfFields, houtcome]

namespace Content

/-- The outcome that a content reports. -/
def outcome? : Content → Option Outcome
  | .evaluation _ outcome _ => some outcome
  | .session _ screen => screen.last
  | _ => none

/-- The only number in a document is the value of the outcome that it reports. -/
theorem numbers_document {content : Content} {document : Document}
    (h : content.document? = some document) :
    document.numbers = (content.outcome?.bind Except.toOption).toList := by
  cases content with
  | evaluation text outcome shown =>
      cases outcome with
      | ok value =>
          cases h
          rfl
      | error fault =>
          have hfault := numbers_faultDocument fault
          cases h
          simp [Document.numbers, Document.numbersOfFields, hfault, outcome?, Except.toOption]
  | session id screen =>
      have hscreen := numbers_screenDocument screen
      cases h
      simp [Document.numbers, Document.numbersOfFields, hscreen, outcome?]
  | health version =>
      cases h
      rfl
  | detail text =>
      cases h
      rfl
  | invalid issues =>
      have hissues := Issue.numbersOfItems_map_document issues
      cases h
      simp [Document.numbers, Document.numbersOfFields, hissues, outcome?]
  | nothing =>
      cases h

/-- What a service may say: the outcome of a text, shown as the settings demand, or a consistent
screen; all else reports no outcome. -/
inductive IsSound (settings : Settings) : Content → Prop
  | evaluation (text : String) :
      IsSound settings (.evaluation text (evaluate settings.strictScanner text)
        (Service.display settings (evaluate settings.strictScanner text)))
  | session (id : String) {screen : Screen} (h : screen.Consistent settings.setup) :
      IsSound settings (.session id screen)
  | health (version : String) : IsSound settings (.health version)
  | detail (text : String) : IsSound settings (.detail text)
  | invalid (issues : List Issue) : IsSound settings (.invalid issues)
  | nothing : IsSound settings .nothing

theorem IsSound.exists_text {settings : Settings} {content : Content} (h : content.IsSound settings)
    {outcome : Outcome} (houtcome : content.outcome? = some outcome) :
    ∃ text, evaluate settings.strictScanner text = outcome := by
  cases h with
  | evaluation text => exact ⟨text, Option.some.inj houtcome⟩
  | session id hscreen => exact hscreen.evaluated outcome houtcome
  | health version => cases houtcome
  | detail text => cases houtcome
  | invalid issues => cases houtcome
  | nothing => cases houtcome

/-- Every number in a sound document is the value of some text. -/
theorem IsSound.isFinite_of_mem {settings : Settings} {content : Content}
    (h : content.IsSound settings) {document : Document}
    (hdocument : content.document? = some document) :
    ∀ x ∈ document.numbers, x.isFinite = true := by
  intro x hx
  rw [numbers_document hdocument, Option.mem_toList] at hx
  have hvalue : (content.outcome?.bind Except.toOption) = some x := hx
  rcases Option.bind_eq_some_iff.1 hvalue with ⟨outcome, houtcome, hok⟩
  rcases h.exists_text houtcome with ⟨text, htext⟩
  cases outcome with
  | error fault =>
      cases hok
  | ok value =>
      cases hok
      exact evaluate_isFinite htext

end Content

/-! ## Services -/

/-- Every live screen is consistent. -/
def Consistent (s : Service) : Prop :=
  ∀ id screen, s.sessions.get? id = some screen → screen.Consistent s.settings.setup

theorem consistent_of_start {settings : Settings} {ids : Nat → String} {s : Service}
    (h : startWith settings ids = .ok s) : s.settings = settings ∧ s.Consistent := by
  rcases bind_eq_ok_iff.1 h with ⟨level, -, hservice⟩
  cases hservice
  refine ⟨rfl, ?_⟩
  -- There are no sessions yet.
  intro id screen hget
  cases hget

namespace Consistent

variable {s : Service}

/-- A new screen is blank, pressed keys keep a screen consistent, and a deletion leaves the others. -/
theorem execute (hs : s.Consistent) (command : Command) : (s.execute command).Consistent := by
  intro id screen hget
  rw [s.execute_settings command]
  cases command with
  | create =>
      have hcreated : (if id = s.sessions.nextId then some (Screen.blank s.settings.setup)
          else s.sessions.get? id) = some screen :=
        (Sessions.get?_create s.settings.setup s.sessions id).symm.trans hget
      by_cases hid : id = s.sessions.nextId
      · rw [if_pos hid] at hcreated
        cases hcreated
        exact Screen.Consistent.blank s.settings.setup
      · rw [if_neg hid] at hcreated
        exact hs id screen hcreated
  | press other keys =>
      rw [get?_execute_press] at hget
      by_cases hid : id = other
      · rw [if_pos hid] at hget
        rcases Option.map_eq_some_iff.1 hget with ⟨before, hbefore, hpressed⟩
        have hpress := (hs id before hbefore).pressAll keys
        rw [← hpressed]
        exact hpress
      · rw [if_neg hid] at hget
        exact hs id screen hget
  | delete other =>
      rw [get?_execute_delete] at hget
      by_cases hid : id = other
      · rw [if_pos hid] at hget
        cases hget
      · rw [if_neg hid] at hget
        exact hs id screen hget

theorem next (hs : s.Consistent) (r : Request) : (s.next r).Consistent := by
  rw [next_eq]
  cases r.command? with
  | none => exact hs
  | some command => exact hs.execute command

theorem after (hs : s.Consistent) (requests : List Request) : (s.after requests).Consistent := by
  induction requests generalizing s with
  | nil =>
      exact hs
  | cons r requests ih =>
      have hnext := hs.next r
      rw [after_cons]
      exact ih hnext

end Consistent

/-! ## Answers -/

theorem isSound_evaluateBody (settings : Settings) (body : Option Document) :
    (evaluateBody settings body).content.IsSound settings := by
  unfold evaluateBody
  cases readExpression body with
  | error issues => exact .invalid issues
  | ok text => exact .evaluation text

theorem isSound_deleteSession (s : Service) (id : String) :
    (s.deleteSession id).2.content.IsSound s.settings := by
  unfold deleteSession
  cases s.sessions.delete id with
  | ok sessions => exact .nothing
  | error m => exact .detail m.message

namespace Consistent

variable {s : Service}

theorem isSound_showSession (hs : s.Consistent) (id : String) :
    (s.showSession id).content.IsSound s.settings := by
  unfold showSession
  cases hget : s.sessions.get? id with
  | none =>
      rw [Sessions.get_of_missing hget]
      exact .detail _
  | some screen =>
      have hscreen := hs id screen hget
      rw [Sessions.get_of_live hget]
      exact .session id hscreen

theorem isSound_pressKeys (hs : s.Consistent) (id : String) (labels : List String) :
    (s.pressKeys id labels).2.content.IsSound s.settings := by
  unfold pressKeys
  split
  · rename_i hnone
    cases hget : s.sessions.get? id with
    | none =>
        rw [Sessions.get_of_missing hget]
        exact .detail _
    | some screen =>
        have hpressed := (hs id screen hget).pressAll (labels.filterMap Key.ofLabel?)
        have hlabels := Screen.pressLabels_of_isLabel s.settings.setup
          (filter_unknown_eq_nil_iff.1 hnone) screen
        rw [Sessions.get_of_live hget]
        dsimp only
        rw [hlabels]
        exact .session id hpressed
  · exact .detail _

theorem isSound_handle (hs : s.Consistent) (route : Route) (method : String)
    (body : Option Document) : (s.handle route method body).2.content.IsSound s.settings := by
  unfold handle
  cases route with
  | evaluate =>
      exact isSound_evaluateBody s.settings body
  | sessions =>
      have hblank := Screen.Consistent.blank s.settings.setup
      exact .session s.sessions.nextId hblank
  | session id =>
      dsimp only
      by_cases hdelete : method = "DELETE"
      · rw [if_pos hdelete]
        exact isSound_deleteSession s id
      · rw [if_neg hdelete]
        exact hs.isSound_showSession id
  | keys id =>
      dsimp only [pressBody]
      cases readKeys body with
      | error issues => exact .invalid issues
      | ok labels => exact hs.isSound_pressKeys id labels
  | health =>
      exact .health s.settings.appVersion

theorem isSound_dispatch (hs : s.Consistent) (r : Request) :
    (s.dispatch r).2.content.IsSound s.settings := by
  cases hroute : r.route? with
  | none =>
      rw [dispatch_of_unrouted hroute]
      by_cases hslashed : Route.isSlashed r.path = true
      · rw [if_pos hslashed]
        exact .nothing
      · rw [if_neg hslashed]
        exact .detail "Not Found"
  | some route =>
      rw [dispatch_of_route hroute]
      by_cases hadmits : route.admits r.verb = true
      · rw [if_pos hadmits]
        exact hs.isSound_handle route r.verb r.body
      · rw [if_neg hadmits]
        exact .detail "Method Not Allowed"

theorem isSound_answer (hs : s.Consistent) (r : Request) :
    (s.answer r).content.IsSound s.settings := by
  rw [answer_eq]
  by_cases hhead : r.verb = "HEAD"
  · rw [if_pos hhead]
    exact .nothing
  · have hdispatch := hs.isSound_dispatch r
    rw [if_neg hhead]
    exact hdispatch

end Consistent

theorem respondAll_cons (s : Service) (r : Request) (requests : List Request) :
    s.respondAll (r :: requests) = s.answer r :: (s.next r).respondAll requests := by
  unfold next answer
  rw [respondAll]

/-- Each response answers its request after all requests before it. -/
theorem exists_request_of_mem_respondAll {s : Service} {requests : List Request}
    {response : Response} (h : response ∈ s.respondAll requests) :
    ∃ before r later, requests = before ++ r :: later ∧ (s.after before).answer r = response := by
  induction requests generalizing s with
  | nil =>
      cases h
  | cons r requests ih =>
      rw [respondAll_cons] at h
      rcases List.mem_cons.1 h with hfirst | hrest
      · exact ⟨[], r, requests, rfl, hfirst.symm⟩
      · rcases ih hrest with ⟨before, other, later, hrequests, hanswer⟩
        refine ⟨r :: before, other, later, by rw [hrequests, List.cons_append], ?_⟩
        rw [after_cons]
        exact hanswer

/-! ## Evaluations -/

/-- How the fields of an evaluation hang together. -/
structure IsEvaluation (settings : Settings) (fields : List (String × Document)) : Prop where
  ok_iff : fields.lookup "ok" = some (.bool true) ↔
    (∃ value, fields.lookup "value" = some (.number value)) ∧ fields.lookup "error" = some .null
  success : ∀ value, fields.lookup "value" = some (.number value) →
    fields.lookup "display" = some (.text value.resultText)
  failure : fields.lookup "ok" ≠ some (.bool true) →
    fields.lookup "ok" = some (.bool false) ∧ fields.lookup "value" = some .null ∧
      (∃ fault, fields.lookup "error" = some (faultDocument fault)) ∧
      fields.lookup "display" = some (.text settings.errorMessage)

theorem exists_isEvaluation (settings : Settings) (text : String) (outcome : Outcome) :
    ∃ fields, (Content.evaluation text outcome (display settings outcome)).document? =
        some (.record fields) ∧ IsEvaluation settings fields := by
  cases outcome with
  | ok value =>
      refine ⟨_, rfl, ?_, ?_, ?_⟩
      · simp [List.lookup_cons]
      · intro other hother
        have hvalue : value = other := by simpa [List.lookup_cons] using hother
        rw [← hvalue]
        rfl
      · intro hfailed
        exact absurd rfl hfailed
  | error fault =>
      refine ⟨_, rfl, ?_, ?_, ?_⟩
      · simp [List.lookup_cons]
      · simp [List.lookup_cons]
      · intro _
        exact ⟨rfl, rfl, ⟨fault, rfl⟩, rfl⟩

theorem answer_of_evaluate {r : Request} (hroute : r.route? = some .evaluate)
    (hverb : r.verb = "POST") (s : Service) : s.answer r = evaluateBody s.settings r.body := by
  have hadmits : Route.evaluate.admits r.verb = true := by
    rw [hverb]
    rfl
  unfold answer
  rw [respond_of_admits hroute hadmits]
  rfl

/-- An evaluation has no other answers than this one and a refusal of the body. -/
theorem exists_fields_of_evaluateBody {settings : Settings} {body : Option Document}
    (h : (evaluateBody settings body).status = 200) :
    ∃ fields, (evaluateBody settings body).content.document? = some (.record fields) ∧
      IsEvaluation settings fields := by
  unfold evaluateBody at h ⊢
  cases hbody : readExpression body with
  | error issues =>
      rw [hbody] at h
      cases h
  | ok text =>
      exact exists_isEvaluation settings text (evaluate settings.strictScanner text)

end Service

/-! ## Results on screens -/

theorem Binary64.ne_resultText {x : Binary64} (hfinite : x.isFinite = true) {word : String}
    (hword : 'n' ∈ word.toList) : word ≠ x.resultText := by
  rintro rfl
  -- No key has an `n`.
  have hkey := Screen.mem_characters_of_resultText hfinite 'n' hword
  revert hkey
  decide

/-! ## Runs -/

/-- The value of a text is finite.  So every number that a service ever reports is finite and has a
numeral; its evaluations report either a value, shown as a result, or a fault, shown as the error
message; and no result on a screen is a word for an infinity or for what is not a number. -/
theorem reported_numbers_finite :
    (∀ (strict : Bool) (text : String) (value : Binary64),
      evaluate strict text = .ok value → value.isFinite = true) ∧
    (∀ (settings : Settings) (ids : Nat → String) (s : Service) (requests : List Service.Request),
      Service.startWith settings ids = .ok s →
        (∀ response ∈ s.respondAll requests, ∀ document,
          response.content.document? = some document →
            ∀ x ∈ document.numbers, x.isFinite = true ∧ IsJsonNumeral x.plainText) ∧
        ∀ r : Service.Request, r.route? = some .evaluate → r.verb = "POST" →
          ((s.after requests).answer r).status = 200 →
            ∃ fields, ((s.after requests).answer r).content.document? = some (.record fields) ∧
              Service.IsEvaluation settings fields) ∧
    ∀ (setup : Setup) (screen : Screen) (value : Binary64),
      evaluate setup.strict screen.expression = .ok value →
        (screen.compute setup).expression = value.resultText ∧
          (screen.compute setup).display = value.resultText ∧
          ∀ word ∈ ["inf", "-inf", "nan"], word ≠ value.resultText := by
  refine ⟨?_, ?_, ?_⟩
  · intro strict text value hvalue
    exact evaluate_isFinite hvalue
  · intro settings ids s requests hstart
    rcases Service.consistent_of_start hstart with ⟨hsettings, hs⟩
    refine ⟨?_, ?_⟩
    · intro response hresponse document hdocument x hx
      rcases Service.exists_request_of_mem_respondAll hresponse with
        ⟨before, r, later, -, hanswer⟩
      have hsound := (hs.after before).isSound_answer r
      rw [hanswer] at hsound
      have hfinite := hsound.isFinite_of_mem hdocument x hx
      exact ⟨hfinite, Binary64.isJsonNumeral_plainText_iff.2 hfinite⟩
    · intro r hroute hverb hstatus
      have hanswer := Service.answer_of_evaluate hroute hverb (s.after requests)
      rw [Service.after_settings, hsettings] at hanswer
      rw [hanswer] at hstatus ⊢
      exact Service.exists_fields_of_evaluateBody hstatus
  · intro setup screen value hvalue
    have hfinite := evaluate_isFinite hvalue
    rw [Screen.compute_of_ok hvalue]
    refine ⟨rfl, rfl, ?_⟩
    intro word hword
    refine Binary64.ne_resultText hfinite ?_
    revert word
    decide

/-- A single literal that no operator checks, evaluated on its own, for a request and on a screen. -/
theorem reported_numbers_finite_tenth :
    let tenth : Binary64 := .finite false ⟨4591870180066957722, by decide⟩
    let s : Service := ⟨{}, .empty⟩
    let r : Service.Request := ⟨"post", "/evaluate", some (.record [("expression", .text "0.1")])⟩
    let screen : Screen := ⟨"0.1", "0.1", false, none⟩
    evaluate false "0.1" = .ok tenth ∧ tenth.isFinite = true ∧
      Service.start {} = .ok s ∧
      (∃ document, (s.answer r).content.document? = some document ∧ document.numbers = [tenth] ∧
        IsJsonNumeral tenth.plainText) ∧
      (∃ fields, (s.answer r).content.document? = some (.record fields) ∧
        Service.IsEvaluation {} fields) ∧
      (screen.compute {}).expression = "0.1" ∧ ∀ word ∈ ["inf", "-inf", "nan"], word ≠ "0.1" := by
  intro tenth s r screen
  have hvalue : evaluate false "0.1" = .ok tenth := by decide +kernel
  have htext : tenth.resultText = "0.1" := by decide +kernel
  have hroute : r.route? = some .evaluate := by decide +kernel
  have hverb : r.verb = "POST" := by decide +kernel
  have hstart : Service.start {} = .ok s := rfl
  have hanswer : s.answer r = ⟨200, .evaluation "0.1" (.ok tenth) "0.1"⟩ := by
    have hbody : Service.evaluateBody {} r.body =
        ⟨200, .evaluation "0.1" (evaluate false "0.1")
          (Service.display {} (evaluate false "0.1"))⟩ := rfl
    rw [Service.answer_of_evaluate hroute hverb, hbody, hvalue, Service.display, htext]
  rcases reported_numbers_finite with ⟨hvalues, hruns, hscreens⟩
  rcases hruns {} Sessions.numbered s [r] hstart with ⟨hnumbers, -⟩
  rcases hruns {} Sessions.numbered s [] hstart with ⟨-, hevaluations⟩
  refine ⟨hvalue, hvalues false "0.1" tenth hvalue, hstart, ?_, ?_, ?_⟩
  · have hresponse : s.answer r ∈ s.respondAll [r] := by
      rw [Service.respondAll_cons]
      exact List.mem_cons_self
    have hreport : ∃ document, (s.answer r).content.document? = some document ∧
        document.numbers = [tenth] := by
      rw [hanswer]
      exact ⟨_, rfl, rfl⟩
    rcases hreport with ⟨document, hdocument, honly⟩
    have htenth : tenth ∈ document.numbers := by
      rw [honly]
      exact List.mem_cons_self
    exact ⟨document, hdocument, honly,
      (hnumbers (s.answer r) hresponse document hdocument tenth htenth).2⟩
  · refine hevaluations r hroute hverb ?_
    have hstatus : (s.answer r).status = 200 := by rw [hanswer]
    exact hstatus
  · rcases hscreens {} screen tenth hvalue with ⟨hexpression, -, hwords⟩
    rw [htext] at hexpression hwords
    exact ⟨hexpression, hwords⟩

end Abacus
