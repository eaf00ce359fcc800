import Abacus.Text.Lines
import Abacus.Text.Percent

/-!
# Target — what a request is sent to

A target is a path, with a scheme and an authority in front of it if need be, and a query and a
fragment after it. Only its path decides where a request goes. A target that lacks a scheme or a
host is relative to the service, whose path is a single slash.

* `Service.Target` — the parts of a target that bear on its path;
* `Service.Target.ofString` — the target that a text stands for;
* `Service.Target.path` — the path at which the request arrives.
-/

namespace Abacus

namespace Service

structure Target where
  scheme : List Char
  authority : List Char
  /-- The path as it is written. -/
  written : List Char
  deriving DecidableEq, Repr

/-! ## Segments -/

/-- The parts of a path between its slashes. -/
def segments (path : List Char) : List (List Char) := Text.splitWhere (· == '/') path

/-- Puts a part after the parts of a path: one dot stands for nothing, and two dots take back the
part before them, but not the slash at the root. -/
def addSegment (path : List (List Char)) (segment : List Char) : List (List Char) :=
  if segment = ['.'] then path
  else if segment = ['.', '.'] then if path = [[]] then path else path.dropLast
  else path ++ [segment]

def resolveDots (path : List Char) : List Char :=
  List.intercalate ['/'] ((segments path).foldl addSegment [])

namespace Target

/-! ## Reading -/

def isSchemeChar (c : Char) : Bool := c.isAlphanum || c == '+' || c == '-' || c == '.'

/-- The scheme before the first colon, and the text after it; a scheme may be empty, and it does not
begin with a digit or a mark. -/
def splitScheme (cs : List Char) : List Char × List Char :=
  let scheme := cs.takeWhile isSchemeChar
  match cs.dropWhile isSchemeChar with
  | ':' :: rest => if scheme.head?.all Char.isAlpha then (scheme, rest) else ([], cs)
  | _ => ([], cs)

/-- Two slashes begin an authority, and the next slash ends it. -/
def ofString (s : String) : Target :=
  let (scheme, rest) := splitScheme s.toList
  match rest.takeWhile fun c => c != '?' && c != '#' with
  | '/' :: '/' :: cs => ⟨scheme, cs.takeWhile (· != '/'), cs.dropWhile (· != '/')⟩
  | path => ⟨scheme, [], path⟩

/-! ## Authorities -/

/-- The authority without a user in front of it: a host and a port. -/
def hostPort (t : Target) : List Char := (t.authority.reverse.takeWhile (· != '@')).reverse

def hasHost (t : Target) : Bool := t.hostPort.head?.any (· != ':')

/-- An authority of nothing but its marks is none. -/
def hasAuthority (t : Target) : Bool :=
  [[], ['@'], [':'], ['@', ':']].all (· != t.authority)

def isRelative (t : Target) : Bool := t.scheme.isEmpty || !t.hasHost

/-! ## Paths -/

/-- After a scheme or an authority the dots of a path are resolved at once. -/
def ownPath (t : Target) : List Char :=
  if t.scheme.isEmpty && !t.hasAuthority then t.written else resolveDots t.written

/-- One slash begins the path of a relative target, and its dots are resolved from there. -/
def fullPath (t : Target) : List Char :=
  if t.isRelative then resolveDots ('/' :: t.ownPath.dropWhile (· == '/')) else t.ownPath

/-- The path is decoded twice: by the side that sends a request and by the side that receives it. -/
def path (t : Target) : String :=
  Text.percentDecode (Text.percentDecode (String.ofList t.fullPath))

end Target

end Service

end Abacus
