import Abacus.Fault
import Abacus.Token

/-!
# The grammar of expressions

A sum is a product, or a sum, `+` or `-`, and a product; a product is a factor, or a product, `*` or
`/`, and a factor; a factor is a number, or a sum in brackets.

* `Phrase` — the parse trees of the three levels;
* `Phrase.symbols` — what a tree is written as;
* `Phrase.value` — the outcome of a tree, from the left to the right;
* `IsSentence` — the symbols that are written for some sum.
-/

namespace Abacus

/-- The levels of the grammar, from the one that binds weakest. -/
inductive Level
  | sum
  | product
  | factor
  deriving DecidableEq, Repr

inductive Phrase : Level → Type
  | sum (left : Phrase .sum) (op : Operator) (additive : op = .plus ∨ op = .minus)
      (right : Phrase .product) : Phrase .sum
  | ofProduct (inner : Phrase .product) : Phrase .sum
  | product (left : Phrase .product) (op : Operator) (multiplicative : op = .times ∨ op = .divide)
      (right : Phrase .factor) : Phrase .product
  | ofFactor (inner : Phrase .factor) : Phrase .product
  | number (value : Binary64) : Phrase .factor
  | brackets (inner : Phrase .sum) : Phrase .factor

namespace Phrase

def symbols : {level : Level} → Phrase level → List Symbol
  | _, .sum left op _ right => left.symbols ++ .operator op :: right.symbols
  | _, .ofProduct inner => inner.symbols
  | _, .product left op _ right => left.symbols ++ .operator op :: right.symbols
  | _, .ofFactor inner => inner.symbols
  | _, .number value => [.number value]
  | _, .brackets inner => .opening :: (inner.symbols ++ [.closing])

/-- The left operand comes first, then the right one, then the operation; the first fault counts. -/
def value : {level : Level} → Phrase level → Outcome
  | _, .sum left op _ right => do op.apply (← left.value) (← right.value)
  | _, .ofProduct inner => inner.value
  | _, .product left op _ right => do op.apply (← left.value) (← right.value)
  | _, .ofFactor inner => inner.value
  | _, .number value => .ok value
  | _, .brackets inner => inner.value

end Phrase

def IsSentence (symbols : List Symbol) : Prop := ∃ phrase : Phrase .sum, phrase.symbols = symbols

end Abacus
