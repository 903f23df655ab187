import Conformance.Check.Basic

/-!
# Validators of arrays and objects

* `array` accepts what its qualifier permits, and otherwise arrays.  Without arguments
  its minimum viable value is the empty array.  `length`, or else `min` and `max`, bound
  the number of elements; a well-formed typeset under `$` is checked against every
  element in order, and the element values it gives make up the minimum viable value.
  The first element that fails is reported with its index as the path step.
* The object types accept what their qualifier permits, and otherwise values of the
  type (for `classObject` with a non-empty `ctor`, of that class).  A shape under `$`
  checks its properties in order (a missing property is `undefined`); the minimum
  viable value is the plain object of the checked properties.  With `exact` (or the
  check option `exactShapes` when `exact` is absent) a property that the shape does not
  declare is refused, and named as the root cause.  A property that fails is reported
  with the shape as the typeset and the property name as the path step.
-/

namespace Conformance

namespace Check

/-- Checks array elements from index `i` on; the minimum viable values so far are
`acc`, reversed. -/
def checkElements (recur : Recur) (arr : Value) (ts : Typeset) (ctx : Context) (t : TypeName)
    (q : Qualifier) (args : Option Args) :
    Nat → List Value → List Value → Except TypesetError Verdict
  | _, acc, [] => .ok (.success (.array acc.reverse))
  | i, acc, v :: rest =>
    match recur v ts (ctx.derive arr (some (.index i))) with
    | .error e => .error e
    | .ok (.success mvv) => checkElements recur arr ts ctx t q args (i + 1) (mvv :: acc) rest
    | .ok (.failure m) => childFailure arr t q args (toString i) m

/-- The validator of `array`. -/
def validateArray (recur : Recur) (v : Value) (q : Qualifier) (args : Option Args) (ctx : Context) :
    Except TypesetError Verdict :=
  if q.permits v then .ok (.success v)
  else
    match v with
    | .array items =>
      match args with
      | none => .ok (.success (.array []))
      | some a =>
        let len := Float.ofNat items.length
        let sized := match Args.count? a "length" with
          | some n => len == n
          | none => withinBounds len (Args.count? a "min") (Args.count? a "max")
        if !sized then mismatch v .array q args
        else
          match typesetArg a "$" with
          | some ts => checkElements recur v ts ctx .array q args 0 [] items
          | none => .ok (.success (.array []))
    | _ => mismatch v .array q args

/-- Whether `v` is an instance for object type `t`: it has the type, and for
`classObject` with a non-empty `ctor`, that class. -/
def isInstance (t : TypeName) (v : Value) (args : Option Args) : Bool :=
  t.holds v &&
    match args.bind (Args.nonEmptyString? · "ctor"), t with
    | some ctor, .classObject =>
      match v with
      | .object (some cls) _ => cls == ctor
      | _ => false
    | _, _ => true

/-- The properties of an object value (none for other values). -/
def propsOf : Value → List (String × Value)
  | .object _ props => props
  | _ => []

/-- Checks the typed properties of a shape from the given one on; the checked
properties so far are `acc`, reversed. -/
def checkShape (recur : Recur) (v : Value) (shape : List (String × Option Typeset))
    (ctx : Context) :
    List (String × Value) → List (String × Option Typeset) → Except TypesetError Verdict
  | acc, [] => .ok (.success (.object none acc.reverse))
  | acc, (_, none) :: rest => checkShape recur v shape ctx acc rest
  | acc, (k, some ts) :: rest =>
    let child := (Value.prop? (propsOf v) k).getD .undefined
    match recur child ts (ctx.derive v (some (.prop k))) with
    | .error e => .error e
    | .ok (.success mvv) =>
      let acc := if acc.any (·.1 == k) then acc.map (fun p => if p.1 == k then (k, mvv) else p)
        else (k, mvv) :: acc
      checkShape recur v shape ctx acc rest
    | .ok (.failure m) => .ok (.failure (m.rewrap v (.shape shape) [k]))

/-- The validator of an object type. -/
def validateObject (recur : Recur) (t : TypeName) (v : Value) (q : Qualifier) (args : Option Args)
    (ctx : Context) : Except TypesetError Verdict :=
  if q.permits v then .ok (.success v)
  else
    let shape := args.bind (Args.shape? · "$")
    let exact := shape.isSome && ((args.bind (Args.flag? · "exact")).getD ctx.options.exactShapes)
    let extra : List String :=
      match shape, v with
      | some s, .object _ props =>
        if exact then (props.map Prod.fst).filter fun k => !s.any (·.1 == k) else []
      | _, _ => []
    if !isInstance t v args || !extra.isEmpty then
      match mismatchAt v t q args [] with
      | .error e => .error e
      | .ok m =>
        .ok (.failure (if extra.isEmpty then m
          else { m with cause := some (.unexpectedProperties extra) }))
    else
      match shape with
      | some s => checkShape recur v s ctx [] s
      | none => .ok (.success (.object none []))

end Check

end Conformance
