import Conformance.Check.Run
import Conformance.Value.Tagged
import Conformance.Typeset.Lint

/-!
# Reports as JSON

The JSON documents a request service answers with.  Values are written in the tagged
encoding of `Value.toTagged`; typesets both as their own documents (`Typeset.toJson`)
and as trees, which say for every object whether it is a shape or an arguments object:

* a type `{"type": name}`, a validator `{"validator": null}`, a shape
  `{"shape": [[key, tree or null], …]}`, a list `{"list": [rule, …]}`;
* a qualifier rule `{"qualifier": symbol}`, an arguments rule
  `{"args": [[key, {"typeset": tree} or {"data": document}], …]}`, and any other rule
  as the tree of its typeset.
-/

namespace Conformance

namespace Typeset

mutual

/-- The tree of a typeset. -/
def tree : Typeset → Json
  | .type t => .object [("type", .string t.name)]
  | .validator _ => .object [("validator", .null)]
  | .shape props => .object [("shape", .array (shapeTree props))]
  | .list rules => .object [("list", .array (rulesTree rules))]

/-- The `[key, tree or null]` pairs of a shape. -/
def shapeTree : List (String × Option Typeset) → List Json
  | [] => []
  | (k, none) :: rest => .array [.string k, .null] :: shapeTree rest
  | (k, some ts) :: rest => .array [.string k, tree ts] :: shapeTree rest

/-- The trees of a list's rules. -/
def rulesTree : List Rule → List Json
  | [] => []
  | .qualifier q :: rest => .object [("qualifier", .string q.symbol)] :: rulesTree rest
  | .args entries :: rest => .object [("args", .array (argsTree entries))] :: rulesTree rest
  | .form ts :: rest => tree ts :: rulesTree rest

/-- The `[key, argument]` pairs of an arguments object. -/
def argsTree : List (String × Arg) → List Json
  | [] => []
  | (k, .typeset ts) :: rest =>
    .array [.string k, .object [("typeset", tree ts)]] :: argsTree rest
  | (k, .data j) :: rest => .array [.string k, .object [("data", j)]] :: argsTree rest

end

/-- A typeset as its document and its tree. -/
def report (ts : Typeset) : Json :=
  .object [("typeset", ts.toJson), ("tree", ts.tree)]

end Typeset

namespace Rule

/-- A run of rules as the list of their documents and the list of their trees. -/
def unitReport (rules : List Rule) : List (String × Json) :=
  [("unit", .array (Typeset.rulesJson rules)), ("tree", .array (Typeset.rulesTree rules))]

end Rule

namespace TypesetError

/-- The report of an error: its kind, its text, and for a grammar violation the kind
of the innermost violation. -/
def toJson (e : TypesetError) : Json :=
  let base := [("error", Json.string ("TypesetError." ++ e.code)), ("message", .string e.message)]
  match e with
  | .invalid _ reason => .object (base ++ [("grammar", .string reason.innermost.code)])
  | _ => .object base

end TypesetError

namespace Verdict

/-- The report of a verdict: the minimum viable value, or the mismatch with its root
cause. -/
def toJson : Verdict → Json
  | .success mvv => .object [("valid", .bool true), ("mvv", mvv.toTagged)]
  | .failure m =>
    .object [("valid", .bool false), ("value", m.value.toTagged), ("typeset", m.typeset.toJson),
      ("path", .array (m.path.map Json.string)), ("mismatch", m.mismatch.toJson),
      ("rootCause", (m.cause.map fun c => Json.string c.message).getD .null),
      ("rootCauseKind", (m.cause.map fun c => Json.string c.code).getD .null),
      ("message", .string m.message)]

end Verdict

namespace LintWarning

/-- The report of a lint warning. -/
def toJson (w : LintWarning) : Json :=
  .object [("location", .array (w.location.map Json.string)), ("message", .string w.message),
    ("display", .string w.display)]

end LintWarning

end Conformance
