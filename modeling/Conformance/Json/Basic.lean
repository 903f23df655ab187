/-!
# JSON documents

A JSON document as this library reads and writes it.  Two things are kept that a
plain reading would lose: an integer literal of at most 64 bits stays an exact
integer (a longer one, or one with a fraction or exponent, is a binary64 float), and
object members keep the order in which they were first written.  A member written
twice keeps its first place and takes its last value.
-/

namespace Conformance

/-- A JSON number: an exact integer in the range of a 64-bit word (unsigned when
non-negative, signed when negative), or a binary64 float. -/
inductive JsonNumber where
  | int (i : Int)
  | float (x : Float)
deriving Inhabited

/-- A JSON document; object members are in insertion order with distinct keys. -/
inductive Json where
  | null
  | bool (b : Bool)
  | number (n : JsonNumber)
  | string (s : String)
  | array (items : List Json)
  | object (members : List (String × Json))
deriving Inhabited

namespace JsonNumber

/-- The number as a binary64 value, rounded to nearest. -/
def toFloat : JsonNumber → Float
  | .int i => Float.ofInt i
  | .float x => x

end JsonNumber

namespace Json

/-- Sets member `key` of an ordered member list: a present key keeps its place and
takes the new value, a new key goes last. -/
def setMember (members : List (String × Json)) (key : String) (value : Json) :
    List (String × Json) :=
  if members.any (fun m => m.1 == key) then
    members.map (fun m => if m.1 == key then (key, value) else m)
  else members ++ [(key, value)]

/-- The value of member `key`. -/
def member? (members : List (String × Json)) (key : String) : Option Json :=
  (members.find? (fun m => m.1 == key)).map Prod.snd

/-- The member `key` of an object document. -/
def get? : Json → String → Option Json
  | .object ms, key => member? ms key
  | _, _ => none

/-- Truthiness of a document: `null`, `false`, zero, NaN and the empty string are
falsy, everything else is truthy. -/
def truthy : Json → Bool
  | .null => false
  | .bool b => b
  | .number n => let x := n.toFloat; x != 0 && !x.isNaN
  | .string s => !s.isEmpty
  | .array _ => true
  | .object _ => true

/-- The document as a number, if it is one. -/
def asFloat? : Json → Option Float
  | .number n => some n.toFloat
  | _ => none

/-- The document as a string, if it is one. -/
def asString? : Json → Option String
  | .string s => some s
  | _ => none

mutual

/-- Replaces every string value (not member names) by its image under `f`. -/
def mapStrings (f : String → String) : Json → Json
  | .string s => .string (f s)
  | .array items => .array (mapStringsItems f items)
  | .object members => .object (mapStringsMembers f members)
  | j => j

/-- `mapStrings` on each item. -/
def mapStringsItems (f : String → String) : List Json → List Json
  | [] => []
  | j :: rest => mapStrings f j :: mapStringsItems f rest

/-- `mapStrings` on each member's value. -/
def mapStringsMembers (f : String → String) : List (String × Json) → List (String × Json)
  | [] => []
  | (k, j) :: rest => (k, mapStrings f j) :: mapStringsMembers f rest

end

/-- A whole number as a document integer. -/
def ofNat (n : Nat) : Json := .number (.int n)

/-- Builds an object from members written in order. -/
def obj (members : List (String × Json)) : Json :=
  .object (members.foldl (fun acc m => setMember acc m.1 m.2) [])

end Json

end Conformance
