/-!
# Percent decoding

In a path, a percent sign and two hexadecimal digits stand for a byte, and the bytes together are
UTF-8. A percent sign without two digits after it stands for itself.

* `Text.percentBytes` — the bytes of a path;
* `Text.utf8Chars` — the characters of bytes, a broken sequence giving U+FFFD;
* `Text.percentDecode` — both steps.
-/

namespace Abacus

namespace Text

def hexDigit? (c : Char) : Option Nat :=
  if '0' ≤ c ∧ c ≤ '9' then some (c.toNat - 48)
  else if 'a' ≤ c ∧ c ≤ 'f' then some (c.toNat - 87)
  else if 'A' ≤ c ∧ c ≤ 'F' then some (c.toNat - 55)
  else none

/-- The bytes that the characters of a path stand for. -/
def percentBytes : List Char → List Nat
  | [] => []
  | c :: cs =>
      let literal := (String.singleton c).toUTF8.toList.map UInt8.toNat
      match c, cs with
      | '%', high :: low :: rest =>
          match hexDigit? high, hexDigit? low with
          | some a, some b => (16 * a + b) :: percentBytes rest
          | _, _ => literal ++ percentBytes (high :: low :: rest)
      | _, rest => literal ++ percentBytes rest

/-! ## Characters of bytes -/

/-- The number of continuation bytes after a leading byte, and the least and greatest first one. -/
def utf8Lead (b : Nat) : Option (Nat × Nat × Nat) :=
  if 0xC2 ≤ b ∧ b ≤ 0xDF then some (1, 0x80, 0xBF)
  else if b = 0xE0 then some (2, 0xA0, 0xBF)
  else if b = 0xED then some (2, 0x80, 0x9F)
  else if 0xE1 ≤ b ∧ b ≤ 0xEF then some (2, 0x80, 0xBF)
  else if b = 0xF0 then some (3, 0x90, 0xBF)
  else if 0xF1 ≤ b ∧ b ≤ 0xF3 then some (3, 0x80, 0xBF)
  else if b = 0xF4 then some (3, 0x80, 0x8F)
  else none

/-- A sequence that has begun: the bits read, the bytes still due and the range of the next one. -/
structure Utf8State where
  bits : Nat
  due : Nat
  least : Nat
  greatest : Nat

def replacement : Char := Char.ofNat 0xFFFD

/-- Reads one byte outside a sequence. -/
def utf8Start (b : Nat) : List Char × Option Utf8State :=
  if b < 0x80 then ([Char.ofNat b], none)
  else match utf8Lead b with
    | some (due, least, greatest) =>
        ([], some ⟨b % Nat.pow 2 (6 - due), due, least, greatest⟩)
    | none => ([replacement], none)

/-- Reads one byte: the characters that it completes, and the sequence that goes on. -/
def utf8Step (state : Option Utf8State) (b : Nat) : List Char × Option Utf8State :=
  match state with
  | none => utf8Start b
  | some s =>
      if s.least ≤ b ∧ b ≤ s.greatest then
        let bits := s.bits * 64 + b % 64
        if s.due = 1 then ([Char.ofNat bits], none)
        else ([], some ⟨bits, s.due - 1, 0x80, 0xBF⟩)
      else
        let (chars, next) := utf8Start b
        (replacement :: chars, next)

/-- The characters of bytes; each broken sequence gives one U+FFFD. -/
def utf8Chars (state : Option Utf8State) : List Nat → List Char
  | [] => if state.isSome then [replacement] else []
  | b :: bs =>
      let (chars, next) := utf8Step state b
      chars ++ utf8Chars next bs

def percentDecode (s : String) : String :=
  String.ofList (utf8Chars none (percentBytes s.toList))

end Text

end Abacus
