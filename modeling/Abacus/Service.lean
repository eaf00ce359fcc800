import Abacus.Service.Content
import Abacus.Service.Route
import Abacus.Sessions
import Abacus.Settings
import Abacus.Text.Uppercase

/-!
# Service — the calculator behind requests

A request names a method and a target and may have a body. The target is resolved first, then the
method, then the body, then the keys, and the session last.

* `Service.Request`, `Service.Response` — both sides of an exchange;
* `Service.startWith`, `Service.start` — a service with the given settings and no sessions;
* `Service.respond` — the response to a request, and the service after it;
* `Service.respondAll` — the responses to requests in order.
-/

namespace Abacus

structure Service where
  settings : Settings
  sessions : Sessions

namespace Service

structure Request where
  method : String
  target : String
  body : Option Document

structure Response where
  status : Nat
  content : Content

/-- A service does not start under an unknown log level. -/
def startWith (settings : Settings) (ids : Nat → String) : Except Log.Level.Unknown Service := do
  let _ ← settings.threshold
  return ⟨settings, Sessions.emptyWith ids⟩

def start (settings : Settings) : Except Log.Level.Unknown Service :=
  startWith settings Sessions.numbered

/-! ## Evaluation -/

/-- What is displayed for an outcome. -/
def display (settings : Settings) : Outcome → String
  | .ok value => value.resultText
  | .error _ => settings.errorMessage

def evaluateBody (settings : Settings) (body : Option Document) : Response :=
  match readExpression body with
  | .error issues => ⟨422, .invalid issues⟩
  | .ok text =>
      let outcome := evaluate settings.strictScanner text
      ⟨200, .evaluation text outcome (display settings outcome)⟩

/-! ## Sessions -/

def missing (m : Sessions.Missing) : Response := ⟨404, .detail m.message⟩

def createSession (s : Service) : Service × Response :=
  let setup := s.settings.setup
  (⟨s.settings, s.sessions.create setup⟩, ⟨201, .session s.sessions.nextId (.blank setup)⟩)

def showSession (s : Service) (id : String) : Response :=
  match s.sessions.get id with
  | .ok screen => ⟨200, .session id screen⟩
  | .error m => missing m

def deleteSession (s : Service) (id : String) : Service × Response :=
  match s.sessions.delete id with
  | .ok sessions => (⟨s.settings, sessions⟩, ⟨204, .nothing⟩)
  | .error m => (s, missing m)

/-- Labels are checked before the session is sought. A label that is refused all the same, between
others that were pressed, is a failure of the service. -/
def pressKeys (s : Service) (id : String) (labels : List String) : Service × Response :=
  match labels.filter fun label => !Key.isLabel label with
  | [] =>
      match s.sessions.get id with
      | .ok screen =>
          match screen.pressLabels s.settings.setup labels with
          | (pressed, none) => (⟨s.settings, s.sessions.put id pressed⟩, ⟨200, .session id pressed⟩)
          | (pressed, some _) => (⟨s.settings, s.sessions.put id pressed⟩, ⟨500, .nothing⟩)
      | .error m => (s, missing m)
  | unknown => (s, ⟨422, .detail s!"Unsupported keys: {Text.quoteList unknown}"⟩)

def pressBody (s : Service) (id : String) (body : Option Document) : Service × Response :=
  match readKeys body with
  | .error issues => (s, ⟨422, .invalid issues⟩)
  | .ok labels => s.pressKeys id labels

/-! ## Requests -/

/-- The response on a route by a method that it admits. -/
def handle (s : Service) (route : Route) (method : String) (body : Option Document) :
    Service × Response :=
  match route with
  | .evaluate => (s, evaluateBody s.settings body)
  | .sessions => s.createSession
  | .session id => if method = "DELETE" then s.deleteSession id else (s, s.showSession id)
  | .keys id => s.pressBody id body
  | .health => (s, ⟨200, .health s.settings.appVersion⟩)

/-- Methods are compared without case. -/
def dispatch (s : Service) (r : Request) : Service × Response :=
  let path := (Target.ofString r.target).path
  let method := Text.uppercase r.method
  match Route.ofPath? path with
  | some route =>
      if route.admits method then s.handle route method r.body
      else (s, ⟨405, .detail "Method Not Allowed"⟩)
  | none =>
      if Route.isSlashed path then (s, ⟨307, .nothing⟩) else (s, ⟨404, .detail "Not Found"⟩)

/-- A response to `HEAD` has no content. -/
def respond (s : Service) (r : Request) : Service × Response :=
  let (next, response) := s.dispatch r
  if Text.uppercase r.method = "HEAD" then (next, ⟨response.status, .nothing⟩) else (next, response)

def respondAll (s : Service) : List Request → List Response
  | [] => []
  | r :: rs =>
      let (next, response) := s.respond r
      response :: next.respondAll rs

end Service

end Abacus
