import Conformance.Check.Basic

/-!
# Validators of single values

* Types without arguments (`any`, `null`, `boolean`, `function`, `regexp`, `date`,
  `error`, `json`) accept what their qualifier permits and what has the type.
* `string` accepts what its qualifier permits, and otherwise strings: without
  arguments any string, but an empty one only when not required.  With arguments,
  `oneOf` (a string, or a non-empty array of them) lists the accepted strings; else a
  non-empty `exp` is a pattern (with `expFlags`) that must match somewhere; else the
  length in UTF-16 units must lie between `min` (by default 1 when required and `max`
  is not 0) and `max`, and a non-empty `partial` must occur in it.
* The number types accept what their qualifier permits, and otherwise numbers of the
  type.  With arguments, `oneOf` (a number, or a non-empty array of them, each kept
  only if it has the type) lists the accepted numbers; else `min` and `max` of the type
  bound them (`max` only when not below `min`).
-/

namespace Conformance

namespace Check

/-- The validator of a type without arguments: its predicate. -/
def validatePredicate (t : TypeName) (v : Value) (q : Qualifier) (args : Option Args) :
    Except TypesetError Verdict :=
  if q.permits v || t.holds v then .ok (.success v) else mismatch v t q args

/-- The strings that `oneOf` accepts, if it says. -/
def oneOfStrings? (args : Args) : Option (List String) :=
  match Args.data? args "oneOf" with
  | some (.string s) => some [s]
  | some (.array items) => if items.isEmpty then none else some (items.filterMap Json.asString?)
  | _ => none

/-- Whether a string meets the arguments of `string`. -/
def stringMeets (s : String) (q : Qualifier) (args : Args) : Except TypesetError Bool :=
  match oneOfStrings? args with
  | some cs => .ok (cs.contains s)
  | none =>
    match Args.nonEmptyString? args "exp" with
    | some exp => (compilePattern exp (Args.nonEmptyString? args "expFlags")).map (·.isMatch s)
    | none =>
      let max := (Args.number? args "max").filter fun x => !x.isNaN && !x.isInf
      let min := (Args.count? args "min").getD
        (if q == .required && !(max.any (· == 0)) then 1 else 0)
      let max := max.filter (· ≥ 0)
      if !withinBounds (Float.ofNat (Text.utf16Length s)) (some min) max then .ok false
      else .ok ((Args.nonEmptyString? args "partial").all (Text.containsText s))

/-- The validator of `string`. -/
def validateString (v : Value) (q : Qualifier) (args : Option Args) : Except TypesetError Verdict :=
  if q.permits v then .ok (.success v)
  else
    let valid : Except TypesetError Bool :=
      match v with
      | .string s =>
        match args with
        | some a => stringMeets s q a
        | none => .ok (q != .required || !s.isEmpty)
      | _ => .ok false
    match valid with
    | .error e => .error e
    | .ok true => .ok (.success v)
    | .ok false => mismatch v .string q args

/-- The numbers that `oneOf` accepts for type `t`, if it says. -/
def oneOfNumbers? (t : TypeName) (args : Args) : Option (List Float) :=
  let ofType := fun (x : Float) => t.holds (.number x)
  match Args.data? args "oneOf" with
  | some (.array items) =>
    if items.isEmpty then none else some ((items.filterMap Json.asFloat?).filter ofType)
  | some j => (j.asFloat?.filter ofType).map fun x => [x]
  | none => none

/-- Whether a number meets the arguments of number type `t`. -/
def numberMeets (t : TypeName) (x : Float) (args : Args) : Bool :=
  match oneOfNumbers? t args with
  | some cs => cs.any (· == x)
  | none =>
    let ofType := fun (y : Float) => t.holds (.number y)
    let min := (Args.number? args "min").filter ofType
    let max := ((Args.number? args "max").filter ofType).filter fun m => min.all (m ≥ ·)
    min.all (x ≥ ·) && max.all (x ≤ ·)

/-- The validator of a number type. -/
def validateNumber (t : TypeName) (v : Value) (q : Qualifier) (args : Option Args) :
    Except TypesetError Verdict :=
  if q.permits v then .ok (.success v)
  else
    let valid := match v with
      | .number x => t.holds v && args.all (numberMeets t x)
      | _ => false
    if valid then .ok (.success v) else mismatch v t q args

end Check

end Conformance
