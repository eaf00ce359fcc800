import Abacus.Decimal.Basic

/-!
# Writing decimals

* `Decimal.positional` — digits around one point, without an exponent;
* `Decimal.scientific` — one digit before the point and a power of ten.
-/

namespace Abacus

namespace Decimal

def digits (d : Decimal) : List Char := Nat.toDigits 10 d.coefficient

/-- At least one digit stands on each side of the point. -/
def positional (d : Decimal) : List Char :=
  let whole := d.digits ++ List.replicate d.exponent.toNat '0'
  let places := (-d.exponent).toNat
  if places = 0 then whole ++ ['.', '0']
  else
    let padded := List.replicate (places + 1 - whole.length) '0' ++ whole
    padded.take (padded.length - places) ++ '.' :: padded.drop (padded.length - places)

/-- The power of ten of the first digit. -/
def leadingExponent (d : Decimal) : Int := d.exponent + d.digits.length - 1

/-- An exponent has a sign and at least two digits. -/
def exponentText (e : Int) : List Char :=
  let ds := Nat.toDigits 10 e.natAbs
  (if e < 0 then '-' else '+') :: (List.replicate (2 - ds.length) '0' ++ ds)

def scientific (d : Decimal) : List Char :=
  let mantissa := match d.digits with
    | first :: second :: rest => first :: '.' :: second :: rest
    | ds => ds
  mantissa ++ 'e' :: exponentText d.leadingExponent

end Decimal

end Abacus
