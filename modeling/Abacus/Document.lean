import Abacus.Binary64.Basic

/-!
# Document — structured values

The contents of requests and responses, and settings given from outside.

* `Document` — a value;
* `Document.ofOption` — a value that may be missing.
-/

namespace Abacus

inductive Document
  | null
  | bool (value : Bool)
  | whole (value : Int)
  | number (value : Binary64)
  | text (value : String)
  | list (items : List Document)
  | record (fields : List (String × Document))
  deriving Inhabited

namespace Document

/-- A missing value is null. -/
def ofOption {α : Type} (write : α → Document) : Option α → Document
  | some value => write value
  | none => .null

end Document

end Abacus
