import Conformance.Check.Basic

/-!
# Custom validators by name

A typeset document is plain JSON, so it cannot hold a function.  It names a custom
validator instead, with a string `<validator:NAME>` where a typeset may stand.  This
module holds the validators such names stand for:

| name | passes when |
|---|---|
| `true`, `false` | always, never |
| `even`, `odd` | the value is a number with remainder `0` / not `0` by two |
| `positive` | the value is a number above zero |
| `truthy` | the value is truthy |
| `isUndefined`, `isString` | the value is of that kind |
| `throw:MSG` | never: it fails with `MSG` as the root cause |
| `echo` | never: it fails with a description of everything it was given |

The remainder by two keeps the sign of the value and is NaN for NaN and the
infinities, so `odd` holds of them and `even` does not.
-/

namespace Conformance

namespace Named

/-- The prefix of a validator marker. -/
def markerPrefix : String := "<validator:"

/-- The name in a marker `<validator:NAME>`. -/
def markerName? (s : String) : Option String :=
  if s.startsWith markerPrefix && s.endsWith ">" then
    some (String.ofList ((s.toList.drop markerPrefix.length).dropLast))
  else none

/-- The remainder of `x` divided by two, with the sign of `x`; NaN when `x` is NaN or
infinite.  Both halving and the subtraction are exact, since the whole part of `x / 2`
times two lies within one binade of `x`. -/
def remainderTwo (x : Float) : Float :=
  if x.isNaN || x.isInf then 0 / 0
  else
    let half := x / 2
    let whole := if half ≥ 0 then half.floor else half.ceil
    x - 2 * whole

/-- How diagnostics write where a value was found. -/
def parentKeyText : Option ParentKey → String
  | none => "none"
  | some (.index i) => "index:" ++ toString i
  | some (.prop name) => "prop:" ++ name
  | some (.key k) => "key:" ++ k.print

/-- The description `echo` fails with. -/
def describe (inv : Invocation) : String :=
  let ctx := inv.context
  "value=" ++ inv.value.print ++ " matched=" ++ inv.matched.print ++ " typeset=" ++
    inv.typeset.print ++ " parent=" ++ ((ctx.parent.map Value.print).getD "none") ++
    " parentKey=" ++ parentKeyText ctx.parentKey ++ " original=" ++ ctx.start.print ++
    " exactShapes=" ++ toString ctx.options.exactShapes

/-- The test a number must pass for a numeric validator. -/
def numberTest (test : Float → Bool) (v : Value) : Bool :=
  match v with
  | .number x => test x
  | _ => false

/-- The validator a name stands for, if it names one. -/
def lookup (name : String) : Option (Invocation → Except String Bool) :=
  if name.startsWith "throw:" then
    some fun _ => .error (String.ofList (name.toList.drop 6))
  else
    match name with
    | "true" => some fun _ => .ok true
    | "false" => some fun _ => .ok false
    | "even" => some fun inv => .ok (numberTest (fun x => remainderTwo x == 0) inv.value)
    | "odd" => some fun inv => .ok (numberTest (fun x => remainderTwo x != 0) inv.value)
    | "positive" => some fun inv => .ok (numberTest (fun x => x > 0) inv.value)
    | "truthy" => some fun inv => .ok inv.value.truthy
    | "isUndefined" => some fun inv => .ok (inv.value.kind == "undefined")
    | "isString" => some fun inv => .ok (inv.value.kind == "string")
    | "echo" => some fun inv => .error (describe inv)
    | _ => none

/-- Whether a name stands for a validator. -/
def known (name : String) : Bool :=
  (lookup name).isSome

/-- The custom validators of an engine: every known name; an unknown one fails. -/
def checks : CustomChecks := fun name inv =>
  match lookup name with
  | some run => run inv
  | none => .error ("unknown validator " ++ name)

/-- The markers of a document read as validator names. -/
def naming : Naming :=
  ⟨markerName?⟩

mutual

/-- The first marker in a document whose name stands for no validator. -/
def unknownIn : Json → Option String
  | .string s =>
    match markerName? s with
    | some name => if known name then none else some name
    | none => none
  | .array items => unknownInItems items
  | .object members => unknownInMembers members
  | _ => none

/-- The first unknown marker among list items. -/
def unknownInItems : List Json → Option String
  | [] => none
  | j :: rest => (unknownIn j).orElse fun _ => unknownInItems rest

/-- The first unknown marker among member values. -/
def unknownInMembers : List (String × Json) → Option String
  | [] => none
  | (_, j) :: rest => (unknownIn j).orElse fun _ => unknownInMembers rest

end

end Named

end Conformance
