import Abacus.Screen

/-!
# Sessions — screens kept under ids

Ids come from a source, which is asked once for each creation.

* `Sessions` — the source of ids, how many sessions were created, and those still live;
* `Sessions.numbered` — the source that counts;
* `Sessions.create`, `Sessions.get`, `Sessions.put`, `Sessions.delete` — the operations.
-/

namespace Abacus

structure Sessions where
  /-- The id that is given out after `n` others. -/
  ids : Nat → String
  created : Nat
  live : List (String × Screen)

namespace Sessions

/-- The ids that count the sessions from one. -/
def numbered (n : Nat) : String := s!"s{n + 1}"

/-- No sessions yet, with ids from a source. -/
def emptyWith (ids : Nat → String) : Sessions := ⟨ids, 0, []⟩

def empty : Sessions := emptyWith numbered

/-- The refusal of an id that no live session has. -/
structure Missing where
  id : String
  deriving DecidableEq, Repr

def Missing.message (m : Missing) : String := s!"Session not found: {m.id}"

/-- The id that the next creation gives out. -/
def nextId (s : Sessions) : String := s.ids s.created

/-- A blank screen under the next id, in place of any that is there. -/
def create (setup : Setup) (s : Sessions) : Sessions :=
  ⟨s.ids, s.created + 1,
    (s.nextId, Screen.blank setup) :: s.live.filter fun entry => entry.1 ≠ s.nextId⟩

def get? (s : Sessions) (id : String) : Option Screen := s.live.lookup id

def get (s : Sessions) (id : String) : Except Missing Screen :=
  match s.get? id with
  | some screen => .ok screen
  | none => .error ⟨id⟩

/-- Changes the screen of a live session; an unknown id changes nothing. -/
def put (s : Sessions) (id : String) (screen : Screen) : Sessions :=
  ⟨s.ids, s.created, s.live.map fun entry => if entry.1 = id then (id, screen) else entry⟩

def delete (s : Sessions) (id : String) : Except Missing Sessions :=
  if (s.get? id).isSome then .ok ⟨s.ids, s.created, s.live.filter fun entry => entry.1 ≠ id⟩
  else .error ⟨id⟩

def size (s : Sessions) : Nat := s.live.length

end Sessions

end Abacus
