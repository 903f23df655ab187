import Conformance.Value.Basic

/-!
# Type names

The closed set of types a typeset may name, which of them take an arguments object,
which carry a nested shape under `$`, the argument names each one reads, and the test
that says whether a value has the type at all (arguments and qualifiers aside).
-/

namespace Conformance

/-- A type a typeset may name. -/
inductive TypeName where
  | any
  | null
  | string
  | boolean
  | number
  | finite
  | int
  | safeInt
  | float
  | function
  | regexp
  | date
  | error
  | array
  | anyObject
  | object
  | plainObject
  | classObject
  | hashMap
  | map
  | set
  | json
deriving DecidableEq, Repr, Inhabited

namespace TypeName

/-- Every type, in registry order. -/
def all : List TypeName :=
  [.any, .null, .string, .boolean, .number, .finite, .int, .safeInt, .float, .function,
    .regexp, .date, .error, .array, .anyObject, .object, .plainObject, .classObject,
    .hashMap, .map, .set, .json]

/-- The identifier of a type inside typesets. -/
def name : TypeName → String
  | .any => "any"
  | .null => "null"
  | .string => "string"
  | .boolean => "boolean"
  | .number => "number"
  | .finite => "finite"
  | .int => "int"
  | .safeInt => "safeInt"
  | .float => "float"
  | .function => "function"
  | .regexp => "regexp"
  | .date => "date"
  | .error => "error"
  | .array => "array"
  | .anyObject => "anyObject"
  | .object => "object"
  | .plainObject => "plainObject"
  | .classObject => "classObject"
  | .hashMap => "hashMap"
  | .map => "map"
  | .set => "set"
  | .json => "json"

/-- The position of a type in registry order. -/
def rank (t : TypeName) : Nat :=
  all.idxOf t

/-- The type an identifier names. -/
def ofName? (s : String) : Option TypeName :=
  all.find? (fun t => t.name == s)

/-- Whether the type accepts an arguments object. -/
def hasArgs : TypeName → Bool
  | .string | .number | .finite | .int | .safeInt | .float | .array | .anyObject | .object
  | .plainObject | .classObject | .hashMap | .map | .set => true
  | _ => false

/-- Whether the type's arguments carry a nested shape under `$`. -/
def isObjectType : TypeName → Bool
  | .anyObject | .object | .plainObject | .classObject => true
  | _ => false

/-- The argument names the type reads; none for a type without arguments. -/
def argNames : TypeName → List String
  | .string => ["oneOf", "exp", "expFlags", "min", "max", "partial"]
  | .number | .finite | .int | .safeInt | .float => ["oneOf", "min", "max"]
  | .array => ["$", "length", "min", "max"]
  | .anyObject | .object | .plainObject => ["$", "exact"]
  | .classObject => ["$", "exact", "ctor"]
  | .hashMap => ["length", "keyExp", "keyFlags", "$values", "deep"]
  | .map => ["length", "$keys", "keyExp", "keyFlags", "$values"]
  | .set => ["length", "$values"]
  | _ => []

/-- The largest integer `n` with `n` and `n + 1` both exact in binary64. -/
def maxSafeInteger : Float := 9007199254740991

/-- A finite number without a fractional part. -/
def integral (x : Float) : Bool :=
  !x.isNaN && !x.isInf && x.floor == x

/-- Whether `v` has the type at all. -/
def holds : TypeName → Value → Bool
  | .any, _ => true
  | .null, v => match v with | .null => true | _ => false
  | .string, v => match v with | .string _ => true | _ => false
  | .boolean, v => match v with | .bool _ => true | _ => false
  | .number, v => match v with | .number x => !x.isNaN | _ => false
  | .finite, v => match v with | .number x => !x.isNaN && !x.isInf | _ => false
  | .int, v => match v with | .number x => integral x | _ => false
  | .safeInt, v => match v with | .number x => integral x && x.abs ≤ maxSafeInteger | _ => false
  | .float, v =>
    match v with
    | .number x => x == 0 || (!x.isNaN && !x.isInf && !integral x)
    | _ => false
  | .function, v => match v with | .function _ _ => true | _ => false
  | .regexp, v => match v with | .regexp _ => true | _ => false
  | .date, v => match v with | .date _ => true | _ => false
  | .error, v => match v with | .error _ _ => true | _ => false
  | .array, v => match v with | .array _ => true | _ => false
  | .anyObject, v => v.isObjectLike
  | .object, v => match v with | .object _ _ => true | _ => false
  | .plainObject, v => match v with | .object none _ => true | _ => false
  | .classObject, v => match v with | .object (some _) _ => true | _ => false
  | .hashMap, v => match v with | .object _ _ => true | _ => false
  | .map, v => match v with | .map _ => true | _ => false
  | .set, v => match v with | .set _ => true | _ => false
  | .json, v =>
    match v with
    | .null | .string _ | .bool _ | .array _ | .object none _ => true
    | .number x => !x.isNaN && !x.isInf
    | _ => false

end TypeName

end Conformance
