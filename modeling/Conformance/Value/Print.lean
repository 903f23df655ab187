import Conformance.Value.Basic
import Conformance.Json.Write

/-!
# Diagnostic text and JSON of values

`formatNumber` writes a number for people: `NaN`, `Infinity`, `-Infinity`, `0` for
both zeros, every digit of a whole number below `1e21`, and otherwise the shortest
digits that read back, always without an exponent.  `Value.print` writes a value
for error messages: strings quoted as in JSON, containers as compact JSON-like text
with a prefix for sets (`Set[…]`), maps (`Map[[k,v],…]`) and class instances
(`Point{…}`).  `Value.toJson` gives the JSON document of a value, which loses the kinds
JSON does not have.
-/

namespace Conformance

/-- A number as diagnostics write it. -/
def formatNumber (x : Float) : String :=
  if x.isNaN then "NaN"
  else if x.isInf then (if x > 0 then "Infinity" else "-Infinity")
  else if x == 0 then "0"
  else
    match Decimal.integralValue? x with
    | some n => if x.abs < 1e21 then toString n else Decimal.Layout.plain.render x
    | none => Decimal.Layout.plain.render x

/-- The JSON number of a value's number: a whole number below `2^53` in magnitude is
an integer, any other finite number a float, and a non-finite number `null`. -/
def numberJson (x : Float) : Json :=
  if x.isNaN || x.isInf then .null
  else
    match Decimal.integralValue? x with
    | some n => if x.abs < 9007199254740992 then .number (.int n) else .number (.float x)
    | none => .number (.float x)

namespace Value

mutual

/-- The diagnostic text of a value. -/
def print : Value → String
  | .undefined => "undefined"
  | .null => "null"
  | .bool b => if b then "true" else "false"
  | .number x => formatNumber x
  | .string s => Json.quote s
  | .array items => "[" ++ printItems items ++ "]"
  | .set items => "Set[" ++ printItems items ++ "]"
  | .object cls props => cls.getD "" ++ "\x7b" ++ printProps props ++ "\x7d"
  | .map entries => "Map[" ++ printEntries entries ++ "]"
  | .date t => Json.quote t.toRfc3339Millis
  | .regexp src => "/" ++ src ++ "/"
  | .error name message => name ++ ": " ++ message
  | .function _ _ => "<function>"

/-- Items separated by commas. -/
def printItems : List Value → String
  | [] => ""
  | [v] => print v
  | v :: rest => print v ++ "," ++ printItems rest

/-- Properties `"key":value` separated by commas. -/
def printProps : List (String × Value) → String
  | [] => ""
  | [(k, v)] => Json.quote k ++ ":" ++ print v
  | (k, v) :: rest => Json.quote k ++ ":" ++ print v ++ "," ++ printProps rest

/-- Entries `[key,value]` separated by commas. -/
def printEntries : List (Value × Value) → String
  | [] => ""
  | [(k, v)] => "[" ++ print k ++ "," ++ print v ++ "]"
  | (k, v) :: rest => "[" ++ print k ++ "," ++ print v ++ "]," ++ printEntries rest

end

mutual

/-- The JSON document of a value: `undefined` and functions are `null`, undefined
properties are left out, the class of an object is dropped, maps become arrays of
`[key, value]` pairs, sets become arrays, dates their RFC 3339 text, regular
expressions `/source/` and errors `{"name", "message"}`. -/
def toJson : Value → Json
  | .undefined => .null
  | .null => .null
  | .bool b => .bool b
  | .number x => numberJson x
  | .string s => .string s
  | .array items => .array (itemsJson items)
  | .set items => .array (itemsJson items)
  | .object _ props => .object (propsJson props)
  | .map entries => .array (entriesJson entries)
  | .date t => .string t.toRfc3339Millis
  | .regexp src => .string ("/" ++ src ++ "/")
  | .error name message => .object [("name", .string name), ("message", .string message)]
  | .function _ _ => .null

/-- The documents of a list of values. -/
def itemsJson : List Value → List Json
  | [] => []
  | v :: rest => toJson v :: itemsJson rest

/-- The members of an object's document, undefined properties left out. -/
def propsJson : List (String × Value) → List (String × Json)
  | [] => []
  | (k, v) :: rest =>
    match v with
    | .undefined => propsJson rest
    | _ => (k, toJson v) :: propsJson rest

/-- The `[key, value]` pairs of a map's document. -/
def entriesJson : List (Value × Value) → List Json
  | [] => []
  | (k, v) :: rest => .array [toJson k, toJson v] :: entriesJson rest

end

mutual

/-- A JSON document as a value: objects become plain objects, numbers binary64. -/
def ofJson : Json → Value
  | .null => .null
  | .bool b => .bool b
  | .number n => .number n.toFloat
  | .string s => .string s
  | .array items => .array (ofJsonItems items)
  | .object members => .object none (ofJsonMembers members)

/-- The values of a list of documents. -/
def ofJsonItems : List Json → List Value
  | [] => []
  | j :: rest => ofJson j :: ofJsonItems rest

/-- The properties of an object document. -/
def ofJsonMembers : List (String × Json) → List (String × Value)
  | [] => []
  | (k, j) :: rest => (k, ofJson j) :: ofJsonMembers rest

end

end Value

end Conformance
