import Conformance.Json.Write
import Conformance.Qualifier
import Conformance.TypeName

/-!
# Typesets

A typeset describes the values a position accepts.  It has four forms:

* a type name, such as `string`;
* a custom validator, known by name, which implies the type `any`;
* a shape, a map from property names to typesets, which implies `object` (a property
  mapped to nothing is declared but not checked);
* a list of rules: an optional leading qualifier, one or more alternatives (types, each
  optionally followed by its arguments object, shapes and nested lists), and at most one
  trailing custom validator.  Alternatives are tried from left to right.

An arguments object holds data, except under `$`, `$keys` and `$values`, where it may
hold nested typesets.  A typeset is written back as JSON by `Typeset.toJson`, with each
custom validator written `"<validator>"`.
-/

namespace Conformance

mutual

/-- A typeset in one of its four forms. -/
inductive Typeset where
  | type (t : TypeName)
  | validator (name : String)
  | shape (props : List (String × Option Typeset))
  | list (rules : List Rule)

/-- One element of a list typeset. -/
inductive Rule where
  /-- The leading qualifier. -/
  | qualifier (q : Qualifier)
  /-- The arguments of the type before it. -/
  | args (entries : List (String × Arg))
  /-- A type, shape, nested list or validator. -/
  | form (ts : Typeset)

/-- One argument of a type. -/
inductive Arg where
  /-- A nested typeset, under `$`, `$keys` or `$values`. -/
  | typeset (ts : Typeset)
  /-- Any other argument, as JSON. -/
  | data (j : Json)

end

instance : Inhabited Typeset := ⟨.type .any⟩

/-- The text that stands for a custom validator when a typeset is written. -/
def validatorMark : String := "<validator>"

/-- The argument names whose values may be typesets. -/
def typesetArgKeys : List String := ["$", "$keys", "$values"]

namespace Typeset

mutual

/-- The JSON document of a typeset. -/
def toJson : Typeset → Json
  | .type t => .string t.name
  | .validator _ => .string validatorMark
  | .shape props => .object (shapeJson props)
  | .list rules => .array (rulesJson rules)

/-- The members of a shape's document; a property without a typeset is `null`. -/
def shapeJson : List (String × Option Typeset) → List (String × Json)
  | [] => []
  | (k, none) :: rest => (k, .null) :: shapeJson rest
  | (k, some ts) :: rest => (k, toJson ts) :: shapeJson rest

/-- The documents of a list's rules. -/
def rulesJson : List Rule → List Json
  | [] => []
  | .qualifier q :: rest => .string q.symbol :: rulesJson rest
  | .args entries :: rest => .object (argsJson entries) :: rulesJson rest
  | .form ts :: rest => toJson ts :: rulesJson rest

/-- The members of an arguments object's document. -/
def argsJson : List (String × Arg) → List (String × Json)
  | [] => []
  | (k, .typeset ts) :: rest => (k, toJson ts) :: argsJson rest
  | (k, .data j) :: rest => (k, j) :: argsJson rest

end

/-- A typeset as diagnostics write it: its compact JSON. -/
def print (ts : Typeset) : String :=
  ts.toJson.compact

/-- The rules of a list typeset. -/
def rules? : Typeset → Option (List Rule)
  | .list rules => some rules
  | _ => none

end Typeset

namespace Rule

/-- The document of one rule. -/
def toJson (r : Rule) : Json :=
  match Typeset.rulesJson [r] with
  | [j] => j
  | _ => .null

/-- Whether the rule is a qualifier. -/
def isQualifier : Rule → Bool
  | .qualifier _ => true
  | _ => false

/-- Whether the rule is a custom validator. -/
def isValidator : Rule → Bool
  | .form (.validator _) => true
  | _ => false

end Rule

/-- Arguments of a type, in order, with distinct names. -/
abbrev Args := List (String × Arg)

namespace Args

/-- Argument `key`. -/
def get? (args : Args) (key : String) : Option Arg :=
  (args.find? (fun e => e.1 == key)).map Prod.snd

/-- Argument `key` as data. -/
def data? (args : Args) (key : String) : Option Json :=
  match get? args key with
  | some (.data j) => some j
  | _ => none

/-- Argument `key` if it is a number. -/
def number? (args : Args) (key : String) : Option Float :=
  (data? args key).bind Json.asFloat?

/-- Argument `key` if it is a finite number that is not negative. -/
def count? (args : Args) (key : String) : Option Float :=
  (number? args key).filter fun x => !x.isNaN && !x.isInf && x ≥ 0

/-- Argument `key` if it is a string. -/
def string? (args : Args) (key : String) : Option String :=
  (data? args key).bind Json.asString?

/-- Argument `key` if it is a non-empty string. -/
def nonEmptyString? (args : Args) (key : String) : Option String :=
  (string? args key).filter fun s => !s.isEmpty

/-- The truthiness of argument `key` (a typeset is truthy); `none` if absent. -/
def flag? (args : Args) (key : String) : Option Bool :=
  (get? args key).map fun
    | .typeset _ => true
    | .data j => j.truthy

/-- Argument `key` if it holds a typeset. -/
def typeset? (args : Args) (key : String) : Option Typeset :=
  match get? args key with
  | some (.typeset ts) => some ts
  | _ => none

/-- Argument `key` if it holds a shape. -/
def shape? (args : Args) (key : String) : Option (List (String × Option Typeset)) :=
  match typeset? args key with
  | some (.shape props) => some props
  | _ => none

/-- The arguments as a JSON object. -/
def toJson (args : Args) : Json :=
  .object (Typeset.argsJson args)

end Args

end Conformance
