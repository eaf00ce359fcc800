import Abacus.Text.Width

/-!
# Cluster — characters that share their places on a terminal

A character without room joins the cluster before it, and a joiner takes the character after it
along, whatever that is. A picture selector makes the cluster two places wide if its first character
has a picture form.

* `Text.Cluster` — characters, and the places that they take together;
* `Text.clusters` — a text as clusters;
* `Text.width` — the places that a text takes;
* `Text.takeWidth` — the start of a text that fits into a given number of places.
-/

namespace Abacus

namespace Text

/-- Joins the characters on its two sides. -/
def joiner : Char := '\u200d'

/-- Asks for the picture form of the character before it. -/
def pictureSelector : Char := '\ufe0f'

structure Cluster where
  chars : List Char
  width : Nat
  deriving DecidableEq, Repr

namespace Cluster

def ofChar (c : Char) : Cluster := ⟨[c], charWidth c⟩

/-- A cluster that begins with a character of no room has no picture form. -/
def hasPicture (k : Cluster) : Bool := k.width == 1 && k.chars.head?.any widened.hold

/-- Adds a character that takes no room. -/
def extend (k : Cluster) (c : Char) : Cluster :=
  ⟨k.chars ++ [c], if c = pictureSelector ∧ k.hasPicture then 2 else k.width⟩

/-- Adds a character that a joiner takes along. -/
def absorb (k : Cluster) (c : Char) : Cluster := ⟨k.chars ++ [c], k.width⟩

end Cluster

/-! ## Clusters of a text -/

/-- The clusters so far, the last of them in front, and whether a joiner is open. -/
structure ClusterScan where
  clusters : List Cluster
  joined : Bool
  deriving DecidableEq, Repr

namespace ClusterScan

/-- The first character of a text begins a cluster, even if it is a joiner. -/
def start : ClusterScan := ⟨[], false⟩

def add (s : ClusterScan) (c : Char) : ClusterScan :=
  match s.clusters with
  | [] => ⟨[.ofChar c], false⟩
  | k :: ks =>
      if s.joined then ⟨k.absorb c :: ks, false⟩
      else if charWidth c = 0 then ⟨k.extend c :: ks, c == joiner⟩
      else ⟨.ofChar c :: k :: ks, false⟩

end ClusterScan

def clusters (cs : List Char) : List Cluster := (cs.foldl .add ClusterScan.start).clusters.reverse

/-! ## Measuring and cutting -/

/-- A text is measured from an empty cluster on, so that a joiner in front is open, too. -/
def width (cs : List Char) : Nat :=
  let s := cs.foldl ClusterScan.add ⟨[⟨[], 0⟩], false⟩
  (s.clusters.map Cluster.width).foldr (· + ·) 0

/-- A cluster that does not fit is replaced by blanks up to the end. -/
def takeClusters (room : Nat) : List Cluster → List Char
  | [] => []
  | k :: ks =>
      if k.width ≤ room then k.chars ++ takeClusters (room - k.width) ks
      else List.replicate room ' '

/-- The start of a text, as far as it fits; no character fits into no room. -/
def takeWidth (room : Nat) (cs : List Char) : List Char :=
  if room = 0 then [] else takeClusters room (clusters cs)

end Text

end Abacus
