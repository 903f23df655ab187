import Conformance.Typeset.Grammar

/-!
# Normal forms of typesets

* `Typeset.qualifier`: the qualifier a typeset states, or the default.
* `typesetOf`: the shortest typeset for one type with an optional qualifier and
  arguments, or its fully-qualified form.
* `Typeset.fullyQualify`: the fully-qualified form, a list that starts with a
  qualifier and names every type: a shape becomes `object` with `{"$": shape}`, a
  nested list `array` with `{"$": list}`, and a validator without a type before it gets
  `any`.  A qualifier given by the caller replaces the typeset's own.
* `Rule.nextUnit`: the elements of a list that make up its next alternative (a type
  with its arguments, a shape, a nested list or a validator), with the qualifier
  included, left out, or supplied by default.
-/

namespace Conformance

namespace Typeset

/-- The qualifier a typeset states: the first element of a list when it is one, the
default otherwise. -/
def qualifier : Typeset → Qualifier
  | .list (.qualifier q :: _) => q
  | _ => Qualifier.default

end Typeset

/-- The typeset for type `t`: a bare type when nothing else is asked, otherwise a list
with the qualifier (when fully qualified or not the default), the type and its
arguments.  Arguments for a type that takes none are refused. -/
def typesetOf (t : TypeName) (q : Option Qualifier) (args : Option Args) (fullyQualified : Bool) :
    Except TypesetError Typeset :=
  if args.isSome && !t.hasArgs then .error (.argsNotAccepted t)
  else
    let q := q.getD Qualifier.default
    if !fullyQualified && q == Qualifier.default && args.isNone then .ok (.type t)
    else
      let lead := if fullyQualified || q != Qualifier.default then [Rule.qualifier q] else []
      let tail := match args with
        | some a => [Rule.args a]
        | none => []
      .ok (.list (lead ++ [Rule.form (.type t)] ++ tail))

namespace Typeset

/-- The fully-qualified elements of a list from its second element on (or from its
first when that is no qualifier); `typed` says whether a type was already written. -/
def qualifyRest (typed : Bool) : List Rule → List Rule
  | [] => []
  | r :: rest =>
    match r with
    | .form (.type t) => .form (.type t) :: qualifyRest true rest
    | .form (.shape props) =>
      .form (.type .object) :: .args [("$", .typeset (.shape props))] :: qualifyRest true rest
    | .form (.list inner) =>
      .form (.type .array) :: .args [("$", .typeset (.list inner))] :: qualifyRest true rest
    | .args a => .args a :: qualifyRest typed rest
    | .form (.validator v) =>
      if typed then .form (.validator v) :: qualifyRest true rest
      else .form (.type .any) :: .form (.validator v) :: qualifyRest true rest
    | .qualifier _ => qualifyRest typed rest

/-- The fully-qualified form of a typeset already known to be well formed; `q`, when
given, replaces the typeset's qualifier. -/
def fullyQualified (ts : Typeset) (q : Option Qualifier) : Typeset :=
  let q0 := q.getD Qualifier.default
  match ts with
  | .type t => .list [.qualifier q0, .form (.type t)]
  | .shape props =>
    .list [.qualifier q0, .form (.type .object), .args [("$", .typeset (.shape props))]]
  | .validator v => .list [.qualifier q0, .form (.type .any), .form (.validator v)]
  | .list rules =>
    match rules with
    | [] => .list []
    | .qualifier own :: rest => .list (.qualifier (q.getD own) :: qualifyRest false rest)
    | _ => .list (.qualifier q0 :: qualifyRest false rules)

/-- The fully-qualified form of a typeset, after a shallow grammar check. -/
def fullyQualify (ts : Typeset) (q : Option Qualifier) : Except TypesetError Typeset :=
  match verify {} ts with
  | .error e => .error e
  | .ok () => .ok (ts.fullyQualified q)

end Typeset

/-- What happens to the qualifier when a list is split into alternatives. -/
inductive QualifierMode where
  /-- The list's qualifier goes with the first alternative. -/
  | include
  /-- Qualifiers are left out. -/
  | exclude
  /-- Each alternative without the list's qualifier gets this one. -/
  | default (q : Qualifier)
deriving DecidableEq, Repr

namespace Rule

/-- The next alternative of a list from position `cursor`, and the position after it:
an optional qualifier (by the mode), then one element, then the arguments that follow a
type that takes them.  Past the end it is empty. -/
def nextUnit (rules : List Rule) (cursor : Nat) (mode : QualifierMode) : List Rule × Nat :=
  match rules.drop cursor with
  | [] => ([], cursor)
  | r :: rest =>
    let (lead, r, rest, cursor) :=
      if r.isQualifier then
        let lead := if mode == .exclude then [] else [r]
        match rest with
        | [] => (lead, none, [], cursor + 1)
        | r2 :: rest2 => (lead, some r2, rest2, cursor + 2)
      else
        let lead := match mode with
          | .default q => [Rule.qualifier q]
          | _ => []
        (lead, some r, rest, cursor + 1)
    match r with
    | none => (lead, cursor)
    | some r =>
      match r, rest with
      | .form (.type t), .args a :: _ =>
        if t.hasArgs then (lead ++ [r, .args a], cursor + 1) else (lead ++ [r], cursor)
      | _, _ => (lead ++ [r], cursor)

/-- All alternatives of a list from position `cursor` on, with the position after
them. -/
def unitsFrom (rules : List Rule) (mode : QualifierMode) : Nat → Nat → List (List Rule) × Nat
  | 0, cursor => ([], cursor)
  | fuel + 1, cursor =>
    let (unit, next) := nextUnit rules cursor mode
    if unit.isEmpty then ([], next)
    else
      let (more, last) := unitsFrom rules mode fuel next
      (unit :: more, last)

/-- All alternatives of a list, in order, and the position where the split ended. -/
def units (rules : List Rule) (mode : QualifierMode) : List (List Rule) × Nat :=
  unitsFrom rules mode (rules.length + 1) 0

end Rule

/-- The alternatives of a well-formed list typeset; other forms are refused. -/
def Typeset.subtypes (ts : Typeset) (mode : QualifierMode) :
    Except TypesetError (List (List Rule) × Nat) :=
  match Typeset.verify {} ts with
  | .error e => .error e
  | .ok () =>
    match ts with
    | .list rules => .ok (Rule.units rules mode)
    | _ => .error (.listRequired ts.print)

end Conformance
