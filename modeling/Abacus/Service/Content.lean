import Abacus.Document
import Abacus.Screen

/-!
# Contents of requests and responses

* `Service.Issue` — what is wrong with the content of a request;
* `Service.readExpression`, `Service.readKeys` — the contents that the routes expect;
* `Service.Content` — what a response says, and its document.
-/

namespace Abacus

namespace Service

/-! ## What is wrong with a request -/

inductive Issue
  | missingBody
  | bodyNotRecord
  | missingField (field : String)
  | fieldNotText (field : String)
  | fieldNotList (field : String)
  | listEmpty (field : String)
  | itemNotText (field : String) (index : Nat)
  deriving DecidableEq, Repr

namespace Issue

def name : Issue → String
  | .missingBody | .missingField _ => "missing"
  | .bodyNotRecord => "model_attributes_type"
  | .fieldNotText _ | .itemNotText _ _ => "string_type"
  | .fieldNotList _ => "list_type"
  | .listEmpty _ => "too_short"

/-- The way from the request to the place of the issue. -/
def location : Issue → List Document
  | .missingBody | .bodyNotRecord => [.text "body"]
  | .missingField f | .fieldNotText f | .fieldNotList f | .listEmpty f => [.text "body", .text f]
  | .itemNotText f index => [.text "body", .text f, .whole index]

def document (i : Issue) : Document :=
  .record [("type", .text i.name), ("loc", .list i.location)]

end Issue

/-! ## Contents of requests -/

/-- A body that is null counts as none. -/
def bodyField (name : String) : Option Document → Except (List Issue) Document
  | none | some .null => .error [.missingBody]
  | some (.record fields) =>
      match fields.lookup name with
      | some value => .ok value
      | none => .error [.missingField name]
  | some _ => .error [.bodyNotRecord]

def readExpression (body : Option Document) : Except (List Issue) String := do
  match ← bodyField "expression" body with
  | .text s => return s
  | _ => throw [.fieldNotText "expression"]

/-- The texts of a list from index `start` on, or an issue for every item that is none. -/
def readTexts (field : String) (start : Nat) : List Document → Except (List Issue) (List String)
  | [] => .ok []
  | .text s :: rest => (readTexts field (start + 1) rest).map (s :: ·)
  | _ :: rest =>
      match readTexts field (start + 1) rest with
      | .ok _ => .error [.itemNotText field start]
      | .error issues => .error (.itemNotText field start :: issues)

def readKeys (body : Option Document) : Except (List Issue) (List String) := do
  match ← bodyField "keys" body with
  | .list [] => throw [.listEmpty "keys"]
  | .list items => readTexts "keys" 0 items
  | _ => throw [.fieldNotList "keys"]

/-! ## Contents of responses -/

inductive Content
  | evaluation (expression : String) (outcome : Outcome) (display : String)
  | session (id : String) (screen : Screen)
  | health (version : String)
  | detail (text : String)
  | invalid (issues : List Issue)
  | nothing

def faultDocument (f : Fault) : Document :=
  .record [("kind", .text f.kind.name), ("message", .text f.message),
    ("position", .ofOption (fun p => .whole (Int.ofNat p)) f.position)]

def outcomeDocument : Outcome → Document
  | .ok value => .record [("status", .text "ok"), ("value", .number value)]
  | .error fault => .record [("status", .text "error"), ("error", faultDocument fault)]

def screenDocument (s : Screen) : Document :=
  .record [("expression", .text s.expression), ("display", .text s.display),
    ("fresh_input", .bool s.fresh), ("last_outcome", .ofOption outcomeDocument s.last)]

namespace Content

/-- The document of a response; a response without content has none. -/
def document? : Content → Option Document
  | .evaluation expression (.ok value) display =>
      some (.record [("expression", .text expression), ("ok", .bool true),
        ("value", .number value), ("display", .text display), ("error", .null)])
  | .evaluation expression (.error fault) display =>
      some (.record [("expression", .text expression), ("ok", .bool false),
        ("value", .null), ("display", .text display), ("error", faultDocument fault)])
  | .session id screen =>
      some (.record [("session_id", .text id), ("state", screenDocument screen)])
  | .health version => some (.record [("status", .text "ok"), ("version", .text version)])
  | .detail text => some (.record [("detail", .text text)])
  | .invalid issues => some (.record [("detail", .list (issues.map Issue.document))])
  | .nothing => none

end Content

end Service

end Abacus
