/-!
# Binary64 — the numbers of the calculator

A finite number is a sign and the *rank* of its magnitude: the number of smaller magnitudes.
Rank order is the order of magnitudes, neighbouring ranks are neighbouring numbers, and the rank is
also the bit pattern without the sign.

* `Binary64` — a signed rank, a signed infinity, or not a number;
* `rankUnits` — the magnitude of a rank, in units of 2⁻¹⁰⁷⁴;
* `Binary64.toBits`, `Binary64.ofBits` — the interchange format.
-/

namespace Abacus

/-! ## Ranks and their magnitudes -/

/-- The number of finite magnitudes. -/
def finiteCount : Nat := 2047 * Nat.pow 2 52

theorem finiteCount_pos : 0 < finiteCount := by decide

/-- Neighbouring magnitudes at rank `k` are `2 ^ rankShift k` units apart. -/
def rankShift (k : Nat) : Nat := k / Nat.pow 2 52 - 1

/-- The magnitude of rank `k`, in units of 2⁻¹⁰⁷⁴. -/
def rankUnits (k : Nat) : Nat := (k - rankShift k * Nat.pow 2 52) * Nat.pow 2 (rankShift k)

/-- The number of units in one. -/
def oneUnits : Nat := Nat.pow 2 1074

/-! ## Numbers -/

inductive Binary64
  | finite (negative : Bool) (rank : Fin finiteCount)
  | infinite (negative : Bool)
  | nan
  deriving DecidableEq

namespace Binary64

def zero : Binary64 := .finite false ⟨0, finiteCount_pos⟩

def one : Binary64 := .finite false ⟨1023 * Nat.pow 2 52, by decide⟩

instance : Inhabited Binary64 := ⟨zero⟩

def isFinite : Binary64 → Bool
  | .finite _ _ => true
  | _ => false

/-- Both zeros count. -/
def isZero : Binary64 → Bool
  | .finite _ k => k.val == 0
  | _ => false

/-- A finite number without a fractional part. -/
def isWhole : Binary64 → Bool
  | .finite _ k => rankUnits k % oneUnits == 0
  | _ => false

def neg : Binary64 → Binary64
  | .finite s k => .finite (!s) k
  | .infinite s => .infinite (!s)
  | .nan => .nan

/-! ## Interchange format -/

/-- The 64 bits of a number; all that is not a number has one pattern. -/
def toBits : Binary64 → Nat
  | .finite s k => (if s then Nat.pow 2 63 else 0) + k.val
  | .infinite s => (if s then Nat.pow 2 63 else 0) + finiteCount
  | .nan => finiteCount + Nat.pow 2 51

def ofBits (bits : Nat) : Binary64 :=
  let s := decide (Nat.pow 2 63 ≤ bits)
  let k := bits % Nat.pow 2 63
  if h : k < finiteCount then .finite s ⟨k, h⟩
  else if k = finiteCount then .infinite s
  else .nan

end Binary64

end Abacus
