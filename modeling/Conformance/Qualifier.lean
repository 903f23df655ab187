import Conformance.Value.Basic

/-!
# Qualifiers

A qualifier says which absent values a typeset accepts before any type is looked at:

| qualifier | symbol | accepts without a check |
|---|---|---|
| required | `!` | nothing |
| expected | `+` | `null` |
| optional | `?` | `null` and `undefined` |
| truthy | `-` | every falsy value |

A typeset that names no qualifier is required.
-/

namespace Conformance

/-- How a typeset treats absent values. -/
inductive Qualifier where
  | required
  | expected
  | optional
  | truthy
deriving DecidableEq, Repr, Inhabited

namespace Qualifier

/-- The qualifier of a typeset that names none. -/
def default : Qualifier := .required

/-- All qualifiers, in the order of the table above. -/
def all : List Qualifier := [.required, .expected, .optional, .truthy]

/-- The symbol of a qualifier inside typesets. -/
def symbol : Qualifier → String
  | .required => "!"
  | .expected => "+"
  | .optional => "?"
  | .truthy => "-"

/-- The qualifier a symbol stands for. -/
def ofSymbol? (s : String) : Option Qualifier :=
  all.find? (fun q => q.symbol == s)

/-- Whether the qualifier accepts `v` as an absent value, so that no type is
checked. -/
def permits : Qualifier → Value → Bool
  | .required, _ => false
  | .expected, v => match v with | .null => true | _ => false
  | .optional, v => match v with | .null | .undefined => true | _ => false
  | .truthy, v => !v.truthy

end Qualifier

end Conformance
