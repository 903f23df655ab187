import Conformance.Time.Instant

/-!
# Values

The dynamic values that typesets describe: the JSON kinds, `undefined`, objects that
may be instances of a named class, keyed collections, sets, dates, regular
expressions, errors and functions.  Containers keep their members in insertion order.

Equality of values (`Value.same`) is the one the checks use: numbers compare as
binary64 numbers (so `NaN` differs from itself and `0` equals `-0`), objects compare
by class and by their properties as a map (order does not matter), maps and sets
compare as ordered lists, regular expressions by their source, and functions by
identity.
-/

namespace Conformance

/-- A dynamic value. -/
inductive Value where
  | undefined
  | null
  | bool (b : Bool)
  | number (x : Float)
  | string (s : String)
  | array (items : List Value)
  /-- An object with its properties in order; a plain object has no class name. -/
  | object (className : Option String) (props : List (String × Value))
  /-- A keyed collection, entries in insertion order. -/
  | map (entries : List (Value × Value))
  /-- A collection of distinct values, in insertion order. -/
  | set (items : List Value)
  | date (t : Instant)
  /-- A regular expression, known by its source. -/
  | regexp (source : String)
  | error (name message : String)
  /-- A function with its name, known by its identity `id`. -/
  | function (name : String) (id : Nat)
deriving Inhabited

namespace Value

/-- A plain object. -/
def plain (props : List (String × Value)) : Value := .object none props

/-- The name of a value's kind, as diagnostics write it. -/
def kind : Value → String
  | .undefined => "undefined"
  | .null => "null"
  | .bool _ => "boolean"
  | .number _ => "number"
  | .string _ => "string"
  | .array _ => "array"
  | .object _ _ => "object"
  | .map _ => "map"
  | .set _ => "set"
  | .date _ => "date"
  | .regexp _ => "regexp"
  | .error _ _ => "error"
  | .function _ _ => "function"

/-- `undefined`, `null`, `false`, zero, `NaN` and the empty string are falsy; every
other value is truthy. -/
def truthy : Value → Bool
  | .undefined => false
  | .null => false
  | .bool b => b
  | .number x => x != 0 && !x.isNaN
  | .string s => !s.isEmpty
  | _ => true

/-- Objects, arrays, maps and sets hold other values. -/
def isContainer : Value → Bool
  | .array _ | .object _ _ | .map _ | .set _ => true
  | _ => false

/-- Anything that is not a primitive (`undefined`, `null`, a boolean, a number or a
string). -/
def isObjectLike : Value → Bool
  | .undefined | .null | .bool _ | .number _ | .string _ => false
  | _ => true

mutual

/-- The equality of values that the checks use (see the module comment). -/
def same : Value → Value → Bool
  | .undefined, .undefined => true
  | .null, .null => true
  | .bool a, .bool b => a == b
  | .number a, .number b => a == b
  | .string a, .string b => a == b
  | .array as, .array bs => sameItems as bs
  | .object c ps, .object d qs => c == d && ps.length == qs.length && propsIn ps qs
  | .map es, .map fs => sameEntries es fs
  | .set as, .set bs => sameItems as bs
  | .date s, .date t => s == t
  | .regexp a, .regexp b => a == b
  | .error n m, .error n2 m2 => n == n2 && m == m2
  | .function _ f, .function _ g => f == g
  | _, _ => false

/-- Two lists of values agree item by item. -/
def sameItems : List Value → List Value → Bool
  | [], [] => true
  | a :: as, b :: bs => same a b && sameItems as bs
  | _, _ => false

/-- Two entry lists agree entry by entry. -/
def sameEntries : List (Value × Value) → List (Value × Value) → Bool
  | [], [] => true
  | (k, v) :: es, (k2, v2) :: fs => same k k2 && same v v2 && sameEntries es fs
  | _, _ => false

/-- Every property of the first list is present in the second with the same value. -/
def propsIn : List (String × Value) → List (String × Value) → Bool
  | [], _ => true
  | (k, v) :: ps, qs =>
    (match (qs.find? (fun q => q.1 == k)) with
      | some q => same v q.2
      | none => false) && propsIn ps qs

end

/-- Whether `v` is a member of `vs`, by `same`. -/
def memberOf (v : Value) (vs : List Value) : Bool :=
  vs.any (same v)

/-- Adds `v` at the end unless an equal value is already present. -/
def insertDistinct (vs : List Value) (v : Value) : List Value :=
  if memberOf v vs then vs else vs ++ [v]

/-- A set of the given values: later duplicates are dropped. -/
def setOf (vs : List Value) : Value :=
  .set (vs.foldl insertDistinct [])

/-- Property `key` of an object. -/
def prop? (props : List (String × Value)) (key : String) : Option Value :=
  (props.find? (fun p => p.1 == key)).map Prod.snd

end Value

end Conformance
