import Conformance.Check.Scalar
import Conformance.Check.Container
import Conformance.Check.Collection

/-!
# Running a check

A check first refuses an inconsistent context and a typeset that breaks the grammar
(shallowly: nested typesets are checked when they are reached).  Then:

* a type or a shape is one alternative: the type's validator runs, under the
  typeset's qualifier;
* a bare custom validator checks `any` and then runs;
* a list tries its alternatives from left to right under its qualifier, and the first
  that matches gives the minimum viable value.  If none matches, the failure of the
  only alternative is reported when there is just one, and the list as a whole
  otherwise.  A trailing custom validator then runs with the alternative that matched.

A failure is reported at the level of each typeset it passes through: the value and
typeset there, the path below, and the fully-qualified alternative that failed.
Nested values are checked with a fuel of one less than their container's, starting from
the depth of the value, so the fuel never runs out.
-/

namespace Conformance

namespace Value

mutual

/-- How many levels of nested checks a value can cause below its own: one more than
its deepest member for a container, 1 for any other object-like value (an object shape
checks its absent properties as `undefined`), and 0 for a primitive. -/
def depth : Value → Nat
  | .array items => itemsDepth items + 1
  | .set items => itemsDepth items + 1
  | .object _ props => propsDepth props + 1
  | .map entries => entriesDepth entries + 1
  | .date _ | .regexp _ | .error _ _ | .function _ _ => 1
  | _ => 0

/-- The greatest depth of a list of values. -/
def itemsDepth : List Value → Nat
  | [] => 0
  | v :: rest => max (depth v) (itemsDepth rest)

/-- The greatest depth of property values. -/
def propsDepth : List (String × Value) → Nat
  | [] => 0
  | (_, v) :: rest => max (depth v) (propsDepth rest)

/-- The greatest depth of map keys and values. -/
def entriesDepth : List (Value × Value) → Nat
  | [] => 0
  | (k, v) :: rest => max (max (depth k) (depth v)) (entriesDepth rest)

end

end Value

namespace Check

/-- The validator of type `t`. -/
def validateType (recur : Recur) (t : TypeName) (v : Value) (q : Qualifier) (args : Option Args)
    (ctx : Context) : Except TypesetError Verdict :=
  match t with
  | .string => validateString v q args
  | .number | .finite | .int | .safeInt | .float => validateNumber t v q args
  | .array => validateArray recur v q args ctx
  | .anyObject | .object | .plainObject | .classObject => validateObject recur t v q args ctx
  | .hashMap => validateHashMap recur v q args ctx
  | .map => validateMap recur v q args ctx
  | .set => validateSet recur v q args ctx
  | _ => validatePredicate t v q args

/-- Runs the validator of `t` for the alternative `ts`; a failure is reported at `ts`. -/
def runValidator (e : Engine) (recur : Recur) (v : Value) (ts : Typeset) (t : TypeName)
    (q : Qualifier) (args : Option Args) (ctx : Context) : Except TypesetError Verdict :=
  if !e.has t then .error (.missingValidator t)
  else
    match validateType recur t v q args ctx with
    | .ok (.failure m) => .ok (.failure (m.rewrap v ts []))
    | r => r

/-- Checks one alternative: a type, a shape, or a list that is one type with its
arguments; `q`, when given, replaces the typeset's qualifier. -/
def matchType (e : Engine) (recur : Recur) (v : Value) (ts : Typeset) (ctx : Context)
    (q : Option Qualifier) : Except TypesetError Verdict :=
  let q := q.getD ts.qualifier
  match ts with
  | .type t => runValidator e recur v ts t q none ctx
  | .shape props => runValidator e recur v ts .object q (some [("$", .typeset (.shape props))]) ctx
  | .list _ =>
    let rules := (ts.fullyQualified (some q)).rules?.getD []
    let (unit, cursor) := Rule.nextUnit rules 0 .exclude
    if cursor < rules.length then .error (.notSingleType ts.print)
    else
      match unit with
      | [.form (.type t)] => runValidator e recur v ts t q none ctx
      | [.form (.type t), .args a] => runValidator e recur v ts t q (some a) ctx
      | _ => .error (.notSingleType ts.print)
  | .validator _ => .error (.notSingleType ts.print)

/-- Runs a custom validator; `some` root cause when it refuses. -/
def callCustom (e : Engine) (name : String) (v : Value) (matched ts : Typeset) (ctx : Context) :
    Except TypesetError (Option Failure) :=
  match ctx.validate with
  | .error err => .error err
  | .ok () =>
    match e.custom name ⟨v, matched, ts, ctx⟩ with
    | .ok true => .ok none
    | .ok false => .ok (some .validatorRejected)
    | .error m => .ok (some (.validator m))

/-- Checks a bare custom validator: `any` first, then the validator. -/
def matchValidator (e : Engine) (recur : Recur) (v : Value) (ts : Typeset) (name : String)
    (ctx : Context) : Except TypesetError Verdict :=
  let implied := Typeset.type .any
  match matchType e recur v implied ctx none with
  | .error err => .error err
  | .ok (.failure m) => .ok (.failure m)
  | .ok verdict =>
    match callCustom e name v (implied.fullyQualified none) ts ctx with
    | .error err => .error err
    | .ok none => .ok verdict
    | .ok (some f) =>
      .ok (.failure ⟨v, ts, [], ts.fullyQualified none, some f⟩)

/-- Tries the alternatives of a list from position `cursor`.  `single` says whether
the list has one alternative (known after the first), and `lone` keeps the failure of
that alternative.  Gives the fully-qualified alternative that matched with its minimum
viable value, or the lone failure. -/
def tryAlternatives (e : Engine) (recur : Recur) (v : Value) (rules : List Rule) (ctx : Context)
    (q : Qualifier) (impliesAny : Bool) :
    Nat → Nat → Option Bool → Option Mismatch →
      Except TypesetError (Option (Typeset × Value) × Option Mismatch)
  | 0, _, _, lone => .ok (none, lone)
  | fuel + 1, cursor, single, lone =>
    let (unit, next) := Rule.nextUnit rules cursor .exclude
    if unit.isEmpty then .ok (none, lone)
    else
      let single := single.getD (next ≥ rules.length)
      match unit with
      | [.form (.validator _)] =>
        if impliesAny then .ok (some ((Typeset.type .any).fullyQualified (some q), v), lone)
        else .ok (none, lone)
      | _ =>
        let alt := Typeset.list unit
        match matchType e recur v alt ctx (some q) with
        | .error err => .error err
        | .ok (.success mvv) => .ok (some (alt.fullyQualified (some q), mvv), lone)
        | .ok (.failure m) =>
          tryAlternatives e recur v rules ctx q impliesAny fuel next (some single)
            (if single then some m else lone)

/-- Checks a list typeset: its alternatives, then its trailing custom validator. -/
def matchAlternatives (e : Engine) (recur : Recur) (v : Value) (ts : Typeset) (rules : List Rule)
    (ctx : Context) (q : Option Qualifier) : Except TypesetError Verdict :=
  let q := q.getD ts.qualifier
  let impliesAny := match rules with
    | [.form (.validator _)] | [.qualifier _, .form (.validator _)] => true
    | _ => false
  match tryAlternatives e recur v rules ctx q impliesAny (rules.length + 1) 0 none none with
  | .error err => .error err
  | .ok (none, lone) =>
    .ok (.failure (match lone with
      | some m => m.rewrap v ts []
      | none => { value := v, typeset := ts, path := [], mismatch := ts.fullyQualified (some q) }))
  | .ok (some (matched, mvv), _) =>
    match rules.getLast? with
    | some (.form (.validator name)) =>
      match callCustom e name v matched ts ctx with
      | .error err => .error err
      | .ok none => .ok (.success mvv)
      | .ok (some f) =>
        .ok (.failure ⟨v, ts, [], ts.fullyQualified (some q), some f⟩)
    | _ => .ok (.success mvv)

/-- One level of a check, with `recur` for nested values. -/
def checkStep (e : Engine) (recur : Recur) (v : Value) (ts : Typeset) (ctx : Context) :
    Except TypesetError Verdict :=
  match ctx.validate with
  | .error err => .error err
  | .ok () =>
    match ts.verify {} with
    | .error err => .error err
    | .ok () =>
      match ts with
      | .type _ | .shape _ => matchType e recur v ts ctx none
      | .validator name => matchValidator e recur v ts name ctx
      | .list rules => matchAlternatives e recur v ts rules ctx none

/-- A check with `fuel` levels of nesting; with none left it answers that it ran out of fuel. -/
def checkFuel (e : Engine) : Nat → Recur
  | 0, _, _, _ => .error .outOfFuel
  | fuel + 1, v, ts, ctx => checkStep e (checkFuel e fuel) v ts ctx

end Check

namespace Engine

/-- The check of nested values of `v`. -/
def nested (e : Engine) (v : Value) : Recur :=
  Check.checkFuel e v.depth

/-- Checks `v` against `ts` in a context. -/
def checkIn (e : Engine) (v : Value) (ts : Typeset) (ctx : Context) : Except TypesetError Verdict :=
  Check.checkFuel e (v.depth + 1) v ts ctx

/-- Checks `v` against `ts` from the top, with options. -/
def check (e : Engine) (v : Value) (ts : Typeset) (options : CheckOptions := {}) :
    Except TypesetError Verdict :=
  e.checkIn v ts (Context.root v options)

/-- Checks `v` against a typeset that must be one alternative. -/
def checkWithType (e : Engine) (v : Value) (ts : Typeset) (ctx : Context) (q : Option Qualifier) :
    Except TypesetError Verdict :=
  match ctx.validate with
  | .error err => .error err
  | .ok () =>
    match ts.verify {} with
    | .error err => .error err
    | .ok () => Check.matchType e (e.nested v) v ts ctx q

/-- Checks `v` against a shape. -/
def checkWithShape (e : Engine) (v : Value) (props : List (String × Option Typeset)) (ctx : Context)
    (q : Option Qualifier) : Except TypesetError Verdict :=
  match ctx.validate with
  | .error err => .error err
  | .ok () => Check.matchType e (e.nested v) v (.shape props) ctx q

/-- Checks `v` against the alternatives of a list typeset. -/
def checkWithList (e : Engine) (v : Value) (ts : Typeset) (ctx : Context) (q : Option Qualifier) :
    Except TypesetError Verdict :=
  match ctx.validate with
  | .error err => .error err
  | .ok () =>
    match ts with
    | .list rules =>
      match ts.verify {} with
      | .error err => .error err
      | .ok () => Check.matchAlternatives e (e.nested v) v ts rules ctx q
    | _ => .error (.listRequired ts.print)

/-- The minimum viable value of `v` under `ts`, or the mismatch. -/
def verify (e : Engine) (v : Value) (ts : Typeset) : Except TypesetError (Except Mismatch Value) :=
  (e.check v ts).map fun
    | .success mvv => .ok mvv
    | .failure m => .error m

end Engine

end Conformance
