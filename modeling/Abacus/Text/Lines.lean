/-!
# Lines

* `Text.splitWhere` — the parts of a text between its separators;
* `Text.splitLines` — the parts of a text between its line breaks;
* `Text.inputLines` — the lines of an input, the last of which may lack its line break.
-/

namespace Abacus

namespace Text

/-- A text with `n` separators has `n + 1` parts. -/
def splitWhere (separates : Char → Bool) : List Char → List (List Char)
  | [] => [[]]
  | c :: cs =>
      if separates c then [] :: splitWhere separates cs
      else match splitWhere separates cs with
        | first :: rest => (c :: first) :: rest
        | [] => [[c]]

def splitLines (cs : List Char) : List (List Char) := splitWhere (· == '\n') cs

/-- Every character that begins a new line somewhere. -/
def isLineBreak (c : Char) : Bool :=
  (0xA ≤ c.toNat && c.toNat ≤ 0xD) || (0x1C ≤ c.toNat && c.toNat ≤ 0x1E) || c.toNat == 0x85 ||
    c.toNat == 0x2028 || c.toNat == 0x2029

/-- An empty part after the last line break is no line. -/
def inputLines (s : String) : List String :=
  let parts := splitLines s.toList
  let lines := if parts.getLast? = some [] then parts.dropLast else parts
  lines.map String.ofList

end Text

end Abacus
