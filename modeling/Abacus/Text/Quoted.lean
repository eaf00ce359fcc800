import Abacus.Text.Printable

/-!
# Quoted text

A text in a message stands between quotes, and what cannot be printed is escaped.

* `Text.quoteMark` — the single quote, unless only the double one avoids escapes;
* `Text.quote` — the quoted form of a text;
* `Text.quoteList` — the quoted forms of several texts, in brackets.
-/

namespace Abacus

namespace Text

/-- A lower-case hexadecimal number of at least `width` digits. -/
def hexadecimal (width n : Nat) : List Char :=
  let ds := Nat.toDigits 16 n
  List.replicate (width - ds.length) '0' ++ ds

/-- The double quote for a text that holds single quotes and no double ones. -/
def quoteMark (cs : List Char) : Char :=
  if cs.contains '\'' && !cs.contains '"' then '"' else '\''

/-- The escape of a character that is not printable: two, four or eight hexadecimal digits. -/
def escapeCode (c : Char) : List Char :=
  let n := c.toNat
  if n < 0x100 then '\\' :: 'x' :: hexadecimal 2 n
  else if n < 0x10000 then '\\' :: 'u' :: hexadecimal 4 n
  else '\\' :: 'U' :: hexadecimal 8 n

def quoteChar (mark c : Char) : List Char :=
  if c = mark ∨ c = '\\' then ['\\', c]
  else if c = '\n' then ['\\', 'n']
  else if c = '\r' then ['\\', 'r']
  else if c = '\t' then ['\\', 't']
  else if isPrintable c then [c]
  else escapeCode c

def quote (s : String) : String :=
  let mark := quoteMark s.toList
  String.ofList (mark :: (s.toList.flatMap (quoteChar mark) ++ [mark]))

/-- The quoted characters stand between two marks. -/
theorem toList_quote (text : String) :
    (quote text).toList = quoteMark text.toList ::
      (text.toList.flatMap (quoteChar (quoteMark text.toList)) ++ [quoteMark text.toList]) :=
  String.toList_ofList

def quoteList (texts : List String) : String :=
  "[" ++ ", ".intercalate (texts.map quote) ++ "]"

end Text

end Abacus
