import Conformance.Value.Print
import Conformance.Pattern.Match

/-!
# Values as tagged JSON

Every value can be written as a JSON document and read back.  JSON kinds stand for
themselves (objects are plain objects, numbers binary64); the other kinds are one-key
objects whose key is a tag:

| document | value |
|---|---|
| `{"$undefined": null}` | `undefined` |
| `{"$number": "NaN" / "Infinity" / "-Infinity" / "-0" / decimal}` | a number |
| `{"$map": [[k, v], …]}` | a map, entries in order |
| `{"$set": [v, …]}` | a set, later duplicates dropped |
| `{"$date": RFC 3339}` | a date |
| `{"$regexp": pattern}` | a regular expression |
| `{"$error": {"name", "message"}}` | an error (`"Error"` and `""` by default) |
| `{"$function": name}` | a new function |
| `{"$object": {"class": name or null, "props": {…}}}` | an object |

A one-key object whose key is a tag is always read as the tag.  When written, an
object is tagged if it has a class, or if its only key is a tag.  Numbers are written as
integers when whole and below `2^53` in magnitude, and NaN, the infinities and `-0` with
`$number`.
-/

namespace Conformance

namespace Value

/-- The tags of the encoding. -/
def tags : List String :=
  ["$undefined", "$number", "$map", "$set", "$date", "$regexp", "$error", "$function", "$object"]

/-- Reads a decimal float the way number text is usually read: an optional sign, then
`inf`, `infinity` or `nan` in any case, or digits with an optional point and an optional
exponent, at least one digit before or after the point.  Correctly rounded; a value
more than 400 decades from one is read directly as infinity or zero, which it rounds
to anyway. -/
def readDecimal? (s : String) : Option Float :=
  let cs := s.toList
  let (negative, cs) := match cs with
    | '-' :: rest => (true, rest)
    | '+' :: rest => (false, rest)
    | _ => (false, cs)
  let sign := fun (x : Float) => if negative then -x else x
  let word := String.ofList (cs.map Char.toLower)
  if word == "inf" || word == "infinity" then some (sign (1 / 0))
  else if word == "nan" then some (0 / 0)
  else
    let whole := cs.takeWhile Char.isDigit
    let cs := cs.drop whole.length
    let (frac, cs) := match cs with
      | '.' :: rest => let f := rest.takeWhile Char.isDigit; (f, rest.drop f.length)
      | _ => ([], cs)
    if whole.isEmpty && frac.isEmpty then none
    else
      let expo : Option Int := match cs with
        | [] => some 0
        | e :: rest =>
          if e = 'e' || e = 'E' then
            let (eneg, rest) := match rest with
              | '-' :: more => (true, more)
              | '+' :: more => (false, more)
              | _ => (false, rest)
            if rest.isEmpty || !rest.all Char.isDigit then none
            else
              let n : Int := (rest.foldl (fun acc c => acc * 10 + (c.toNat - 48)) 0 : Nat)
              some (if eneg then -n else n)
          else none
      expo.map fun e =>
        let mantissa := (whole ++ frac).foldl (fun acc c => acc * 10 + (c.toNat - 48)) 0
        let e : Int := e - (frac.length : Int)
        let digits : Int := (toString mantissa).length
        sign (if mantissa = 0 then 0
          else if e + digits > 400 then 1 / 0
          else if e + digits < -400 then 0
          else if e ≥ 0 then Float.ofScientific mantissa false e.toNat
          else Float.ofScientific mantissa true e.natAbs)

/-- The number of a `$number` text. -/
def numberOfText? (s : String) : Option Float :=
  match s with
  | "NaN" => some (0 / 0)
  | "Infinity" => some (1 / 0)
  | "-Infinity" => some (-1 / 0)
  | "-0" => some (-0)
  | _ => readDecimal? s

/-- Whether a source compiles as a pattern with the default flags. -/
def validPattern (src : String) : Bool :=
  (Pattern.compile {} src).isOk

mutual

/-- Reads a value; `fresh` is the identity of the next new function, and the result
carries the identity after the last one used. -/
def ofTagged (fresh : Nat) : Json → Except String (Value × Nat)
  | .null => .ok (.null, fresh)
  | .bool b => .ok (.bool b, fresh)
  | .number n => .ok (.number n.toFloat, fresh)
  | .string s => .ok (.string s, fresh)
  | .array items =>
    (itemsOfTagged fresh items).map fun (vs, fresh) => (.array vs, fresh)
  | .object [("$undefined", _)] => .ok (.undefined, fresh)
  | .object [("$number", j)] =>
    match j with
    | .string s =>
      match numberOfText? s with
      | some x => .ok (.number x, fresh)
      | none => .error ("bad $number " ++ s)
    | _ => .error "$number must be a string"
  | .object [("$map", j)] =>
    match j with
    | .array entries => (entriesOfTagged fresh entries).map fun (es, fresh) => (.map es, fresh)
    | _ => .error "$map entries are [key, value] pairs"
  | .object [("$set", j)] =>
    match j with
    | .array items => (itemsOfTagged fresh items).map fun (vs, fresh) => (setOf vs, fresh)
    | _ => .error "$set must be an array"
  | .object [("$date", j)] =>
    match j with
    | .string s =>
      match Instant.ofRfc3339? s with
      | some t => .ok (.date t, fresh)
      | none => .error ("bad $date " ++ s)
    | _ => .error "$date must be a string"
  | .object [("$regexp", j)] =>
    match j with
    | .string s => if validPattern s then .ok (.regexp s, fresh) else .error "bad $regexp"
    | _ => .error "bad $regexp"
  | .object [("$error", j)] =>
    let name := ((j.get? "name").bind Json.asString?).getD "Error"
    let message := ((j.get? "message").bind Json.asString?).getD ""
    .ok (.error name message, fresh)
  | .object [("$function", j)] => .ok (.function ((j.asString?).getD "") fresh, fresh + 1)
  | .object [("$object", j)] =>
    let cls := (j.get? "class").bind Json.asString?
    match j with
    | .object members =>
      (instancePropsOfTagged fresh members).map fun (ps, fresh) => (.object cls ps, fresh)
    | _ => .error "$object must be an object"
  | .object members =>
    (propsOfTagged fresh members).map fun (ps, fresh) => (.object none ps, fresh)

/-- Reads the `props` member of an `$object` body (none if it is missing). -/
def instancePropsOfTagged (fresh : Nat) :
    List (String × Json) → Except String (List (String × Value) × Nat)
  | [] => .ok ([], fresh)
  | (k, j) :: rest =>
    if k == "props" then
      match j with
      | .object props => propsOfTagged fresh props
      | _ => .error "$object props must be an object"
    else instancePropsOfTagged fresh rest

/-- Reads the values of a list. -/
def itemsOfTagged (fresh : Nat) : List Json → Except String (List Value × Nat)
  | [] => .ok ([], fresh)
  | j :: rest =>
    match ofTagged fresh j with
    | .error e => .error e
    | .ok (v, fresh) =>
      (itemsOfTagged fresh rest).map fun (vs, fresh) => (v :: vs, fresh)

/-- Reads the properties of an object. -/
def propsOfTagged (fresh : Nat) : List (String × Json) → Except String (List (String × Value) × Nat)
  | [] => .ok ([], fresh)
  | (k, j) :: rest =>
    match ofTagged fresh j with
    | .error e => .error e
    | .ok (v, fresh) =>
      (propsOfTagged fresh rest).map fun (ps, fresh) => ((k, v) :: ps, fresh)

/-- Reads the `[key, value]` entries of a map. -/
def entriesOfTagged (fresh : Nat) : List Json → Except String (List (Value × Value) × Nat)
  | [] => .ok ([], fresh)
  | .array [kj, vj] :: rest =>
    match ofTagged fresh kj with
    | .error e => .error e
    | .ok (k, fresh) =>
      match ofTagged fresh vj with
      | .error e => .error e
      | .ok (v, fresh) =>
        (entriesOfTagged fresh rest).map fun (es, fresh) => ((k, v) :: es, fresh)
  | _ :: _ => .error "$map entries are [key, value] pairs"

end

/-- Whether a float is negative zero. -/
def negativeZero (x : Float) : Bool :=
  x == 0 && (x.toBits >>> 63) == 1

/-- The document of a number. -/
def numberTagged (x : Float) : Json :=
  if x.isNaN then .object [("$number", .string "NaN")]
  else if x.isInf then .object [("$number", .string (if x > 0 then "Infinity" else "-Infinity"))]
  else if negativeZero x then .object [("$number", .string "-0")]
  else numberJson x

mutual

/-- Writes a value. -/
def toTagged : Value → Json
  | .undefined => .object [("$undefined", .null)]
  | .null => .null
  | .bool b => .bool b
  | .number x => numberTagged x
  | .string s => .string s
  | .array items => .array (itemsTagged items)
  | .object cls props =>
    let body := propsTagged props
    let tagLike := match props with
      | [(k, _)] => tags.contains k
      | _ => false
    if cls.isSome || tagLike then
      let name := (cls.map Json.string).getD .null
      .object [("$object", .object [("class", name), ("props", .object body)])]
    else .object body
  | .map entries => .object [("$map", .array (entriesTagged entries))]
  | .set items => .object [("$set", .array (itemsTagged items))]
  | .date t => .object [("$date", .string t.toRfc3339Millis)]
  | .regexp src => .object [("$regexp", .string src)]
  | .error name message =>
    .object [("$error", .object [("name", .string name), ("message", .string message)])]
  | .function name _ => .object [("$function", .string name)]

/-- Writes the values of a list. -/
def itemsTagged : List Value → List Json
  | [] => []
  | v :: rest => toTagged v :: itemsTagged rest

/-- Writes the properties of an object. -/
def propsTagged : List (String × Value) → List (String × Json)
  | [] => []
  | (k, v) :: rest => (k, toTagged v) :: propsTagged rest

/-- Writes the entries of a map as `[key, value]` pairs. -/
def entriesTagged : List (Value × Value) → List Json
  | [] => []
  | (k, v) :: rest => .array [toTagged k, toTagged v] :: entriesTagged rest

end

end Value

end Conformance
