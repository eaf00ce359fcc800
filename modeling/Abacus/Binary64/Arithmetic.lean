import Abacus.Binary64.Rounding

/-!
# Arithmetic on binary64

The exact result of two finite numbers is a quotient of units, which `Binary64.ofUnits` rounds once.
The remaining cases follow the rules for zeros, infinities and what is not a number.
-/

namespace Abacus

namespace Binary64

/-- The exact value of a finite number, in units of 2⁻¹⁰⁷⁴. -/
def signedUnits (negative : Bool) (rank : Nat) : Int :=
  if negative then -(rankUnits rank : Int) else rankUnits rank

/-- A sum that is exactly zero is negative only when both terms are. -/
def add : Binary64 → Binary64 → Binary64
  | .finite s j, .finite t k =>
      let sum := signedUnits s j + signedUnits t k
      if sum = 0 then .finite (s && t) ⟨0, finiteCount_pos⟩
      else ofUnits (decide (sum < 0)) sum.natAbs 1
  | .finite _ _, .infinite t => .infinite t
  | .infinite s, .finite _ _ => .infinite s
  | .infinite s, .infinite t => if s = t then .infinite s else .nan
  | _, _ => .nan

def sub (x y : Binary64) : Binary64 := x.add y.neg

def mul : Binary64 → Binary64 → Binary64
  | .finite s j, .finite t k => ofUnits (s ^^ t) (rankUnits j * rankUnits k) oneUnits
  | .finite s j, .infinite t => if j.val = 0 then .nan else .infinite (s ^^ t)
  | .infinite s, .finite t k => if k.val = 0 then .nan else .infinite (s ^^ t)
  | .infinite s, .infinite t => .infinite (s ^^ t)
  | _, _ => .nan

def div : Binary64 → Binary64 → Binary64
  | .finite s j, .finite t k =>
      if k.val = 0 then (if j.val = 0 then .nan else .infinite (s ^^ t))
      else ofUnits (s ^^ t) (rankUnits j * oneUnits) (rankUnits k)
  | .finite s _, .infinite t => .finite (s ^^ t) ⟨0, finiteCount_pos⟩
  | .infinite s, .finite t _ => .infinite (s ^^ t)
  | _, _ => .nan

end Binary64

end Abacus
