import Abacus.Service.Target

/-!
# Routes of the service

* `Service.Route` — what a path addresses;
* `Service.Route.ofPath?` — the route of a path;
* `Service.Route.admits` — the methods of a route.
-/

namespace Abacus

namespace Service

inductive Route
  | evaluate
  | sessions
  | session (id : String)
  | keys (id : String)
  | health
  deriving DecidableEq, Repr

/-! ## Paths -/

/-- The last part of a fixed path; one line break after it is overlooked. -/
def isEnd (word : String) (segment : List Char) : Bool :=
  segment == word.toList || segment == word.toList ++ ['\n']

namespace Route

/-- Ids are not empty. -/
def ofSegments? : List (List Char) → Option Route
  | [[], a] =>
      if isEnd "evaluate" a then some .evaluate
      else if isEnd "health" a then some .health
      else none
  | [[], a, b] => if a = "calculator".toList ∧ isEnd "sessions" b then some .sessions else none
  | [[], a, b, id] =>
      if a = "calculator".toList ∧ b = "sessions".toList ∧ id ≠ [] then
        some (.session (String.ofList id))
      else none
  | [[], a, b, id, c] =>
      if a = "calculator".toList ∧ b = "sessions".toList ∧ id ≠ [] ∧ isEnd "keys" c then
        some (.keys (String.ofList id))
      else none
  | _ => none

def ofPath? (path : String) : Option Route := ofSegments? (segments path.toList)

/-- A path that only slashes at its end keep from being a route. -/
def isSlashed (path : String) : Bool :=
  let cut := (path.toList.reverse.dropWhile (· == '/')).reverse
  cut != path.toList && (ofSegments? (segments cut)).isSome

def admits (route : Route) (method : String) : Bool :=
  match route with
  | .evaluate | .sessions | .keys _ => method == "POST"
  | .session _ => method == "GET" || method == "DELETE"
  | .health => method == "GET"

end Route

end Service

end Abacus
