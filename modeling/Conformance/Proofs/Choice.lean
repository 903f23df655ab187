import Conformance.Proofs.Recursion
import Conformance.Proofs.Alternatives

/-!
# Ordered choice among the alternatives of a list

A list typeset is checked by trying its alternatives from left to right under the list's
qualifier.  The engine does it with a cursor over the list's elements, a flag for a list
of one alternative that it only learns after the first step, a shortcut for a validator
that stands alone, and a custom validator that runs after the loop.  This file states the
same check over the units that `Rule.units` cuts from the list (`Check.orderedChoice`):

* the alternatives are tried in order, and the first that is accepted or fails with an
  error ends the search (`Check.firstMatch`), so nothing after it is tried;
* when none is accepted, the failure of the only unit is reported if the list has one
  unit, and a failure against the whole list otherwise; the custom validator is not run;
* when one is accepted, the list's trailing custom validator, if any, runs once with the
  value, the fully-qualified alternative, the list and the context; a refusal is a failure
  against the whole list and is never followed by another alternative;
* a list that is only a validator (with or without a qualifier) is accepted as `any` with
  the value itself.

`Check.matchAlternatives_eq_orderedChoice` proves the engine's loop equal to it for every
well-formed list.
-/

namespace Conformance

namespace Rule

/-- Whether a unit of a list is its custom validator. -/
def isValidatorUnit : List Rule → Bool
  | [.form (.validator _)] => true
  | _ => false

theorem Alternative.isValidatorUnit_eq_false {o : GrammarOptions} {unit : List Rule}
    (alt : Alternative o unit) : Rule.isValidatorUnit unit = false := by
  cases alt <;> rfl

theorem nextUnit_lead {lead s : List Rule} (leading : lead = [] ∨ ∃ q, lead = [.qualifier q])
    (startsForm : ∃ ts rest, s = .form ts :: rest) :
    nextUnit (lead ++ s) 0 .exclude = nextUnit (lead ++ s) lead.length .exclude := by
  rcases leading with rfl | ⟨q, rfl⟩
  · rfl
  · obtain ⟨ts, rest, rfl⟩ := startsForm
    exact nextUnit_qualifier (by rfl : ([Rule.qualifier q] ++ .form ts :: rest).drop 0 = _)

theorem Splits.first {o : GrammarOptions} {s unit : List Rule} {more : List (List Rule)}
    (split : Splits o s (unit :: more)) {rules : List Rule} {c : Nat} (drop : rules.drop c = s) :
    nextUnit rules c .exclude = (unit, c + unit.length) ∧
      (more = [] ↔ s.length ≤ unit.length) := by
  cases split with
  | validator name => exact ⟨nextUnit_validator drop, by simp⟩
  | @cons _ rest _ alt restSplit =>
      refine ⟨nextUnit_alternative alt restSplit drop, ?_⟩
      constructor
      · rintro rfl
        simp [restSplit.eq_nil_of_units_nil]
      · intro within
        rw [List.length_append] at within
        exact restSplit.units_eq_nil (List.eq_nil_of_length_eq_zero (by omega))

end Rule

namespace Typeset

/-- The custom validator that a typeset ends with: a bare validator, or the last element
of a list. -/
def trailingValidator? : Typeset → Option String
  | .validator name => some name
  | .list rules =>
    match rules.getLast? with
    | some (.form (.validator name)) => some name
    | _ => none
  | _ => none

end Typeset

namespace Check

/-- The first alternative that `attempt` accepts, trying them in order.  An error ends the
search as well; when every alternative fails, their failures in order. -/
def firstMatch (attempt : List Rule → Except TypesetError Verdict) :
    List (List Rule) → Except TypesetError (Except (List Mismatch) (List Rule × Value))
  | [] => .ok (.error [])
  | unit :: rest =>
    match attempt unit with
    | .error err => .error err
    | .ok (.success mvv) => .ok (.ok (unit, mvv))
    | .ok (.failure m) => (firstMatch attempt rest).map fun found => found.mapError (m :: ·)

/-- The verdict once an alternative accepted `v` as `matched` with minimum viable value
`mvv`: the trailing custom validator of `ts`, if any, has the last word, and its refusal
is a failure against the whole typeset. -/
def afterMatch (e : Engine) (v : Value) (ts : Typeset) (ctx : Context) (q : Qualifier)
    (matched : Typeset) (mvv : Value) : Except TypesetError Verdict :=
  match ts.trailingValidator? with
  | none => .ok (.success mvv)
  | some name =>
    match e.custom name ⟨v, matched, ts, ctx⟩ with
    | .ok true => .ok (.success mvv)
    | .ok false =>
      .ok (.failure ⟨v, ts, [], ts.fullyQualified (some q), some .validatorRejected⟩)
    | .error message =>
      .ok (.failure ⟨v, ts, [], ts.fullyQualified (some q), some (.validator message)⟩)

/-- The failure kept for the report: that of the only unit, when the list has one. -/
def loneFailure : List (List Rule) → List Mismatch → Option Mismatch
  | [_], [m] => some m
  | _, _ => none

/-- The failure when no alternative is accepted: that of the only unit when the list has
one, else one against the whole list. -/
def noMatch (v : Value) (ts : Typeset) (q : Qualifier) (units : List (List Rule))
    (failures : List Mismatch) : Mismatch :=
  match loneFailure units failures with
  | some m => m.rewrap v ts []
  | none => { value := v, typeset := ts, path := [], mismatch := ts.fullyQualified (some q) }

/-- The alternative among `units` that accepts `v`, fully qualified under `q`, with its
minimum viable value; or the failures of all of them.  A list whose only unit is its
custom validator accepts `v` as `any`. -/
def choose (e : Engine) (recur : Recur) (v : Value) (ctx : Context) (q : Qualifier)
    (units : List (List Rule)) :
    Except TypesetError (Except (List Mismatch) (Typeset × Value)) :=
  let alternatives := units.filter fun unit => !Rule.isValidatorUnit unit
  if alternatives.isEmpty then .ok (.ok ((Typeset.type .any).fullyQualified (some q), v))
  else
    (firstMatch (fun unit => matchType e recur v (.list unit) ctx (some q)) alternatives).map
      fun found => found.map fun (unit, mvv) => ((Typeset.list unit).fullyQualified (some q), mvv)

/-- The check of `v` against a list `ts` whose units are `units`, under qualifier `q`. -/
def orderedChoice (e : Engine) (recur : Recur) (v : Value) (ts : Typeset) (ctx : Context)
    (q : Qualifier) (units : List (List Rule)) : Except TypesetError Verdict :=
  match choose e recur v ctx q units with
  | .error err => .error err
  | .ok (.error failures) => .ok (.failure (noMatch v ts q units failures))
  | .ok (.ok (matched, mvv)) => afterMatch e v ts ctx q matched mvv

section Loop

variable {e : Engine} {recur : Recur} {v : Value} {rules : List Rule} {ctx : Context}
  {q : Qualifier} {impliesAny : Bool} {fuel c : Nat} {single : Option Bool}
  {lone : Option Mismatch}

theorem tryAlternatives_congr_cursor {c' : Nat}
    (same : Rule.nextUnit rules c .exclude = Rule.nextUnit rules c' .exclude) :
    tryAlternatives e recur v rules ctx q impliesAny (fuel + 1) c single lone =
      tryAlternatives e recur v rules ctx q impliesAny (fuel + 1) c' single lone := by
  simp only [tryAlternatives, same]

theorem tryAlternatives_end (drop : rules.drop c = []) :
    tryAlternatives e recur v rules ctx q impliesAny fuel c single lone = .ok (none, lone) := by
  cases fuel with
  | zero => rfl
  | succ fuel => simp [tryAlternatives, Rule.nextUnit, drop]

theorem tryAlternatives_validator {name : String}
    (drop : rules.drop c = [.form (.validator name)]) :
    tryAlternatives e recur v rules ctx q impliesAny (fuel + 1) c single lone =
      if impliesAny then .ok (some ((Typeset.type .any).fullyQualified (some q), v), lone)
      else .ok (none, lone) := by
  simp [tryAlternatives, Rule.nextUnit_validator drop]

theorem tryAlternatives_alternative {o : GrammarOptions} {unit rest : List Rule}
    {units : List (List Rule)} (alt : Rule.Alternative o unit) (split : Rule.Splits o rest units)
    (drop : rules.drop c = unit ++ rest) :
    tryAlternatives e recur v rules ctx q impliesAny (fuel + 1) c single lone =
      match matchType e recur v (.list unit) ctx (some q) with
      | .error err => .error err
      | .ok (.success mvv) => .ok (some ((Typeset.list unit).fullyQualified (some q), mvv), lone)
      | .ok (.failure m) =>
        let alone := single.getD (c + unit.length ≥ rules.length)
        tryAlternatives e recur v rules ctx q impliesAny fuel (c + unit.length) (some alone)
          (if alone then some m else lone) := by
  have first := Rule.nextUnit_alternative alt split drop
  cases alt <;> simp only [tryAlternatives, first] <;> rfl

theorem tryAlternatives_several {o : GrammarOptions} {s : List Rule} {units : List (List Rule)}
    (split : Rule.Splits o s units) :
    ∀ {c fuel : Nat}, rules.drop c = s → s.length < fuel →
      tryAlternatives e recur v rules ctx q false fuel c (some false) lone =
        (firstMatch (fun unit => matchType e recur v (.list unit) ctx (some q))
            (units.filter fun unit => !Rule.isValidatorUnit unit)).map fun found =>
          (found.toOption.map fun (unit, mvv) => ((Typeset.list unit).fullyQualified (some q), mvv),
            lone) := by
  induction split with
  | nil =>
      intro c fuel drop _
      rw [tryAlternatives_end drop]
      rfl
  | validator name =>
      intro c fuel drop enough
      obtain ⟨fuel, rfl⟩ : ∃ f, fuel = f + 1 := ⟨fuel - 1, by simp at enough; omega⟩
      rw [tryAlternatives_validator drop]
      rfl
  | @cons unit rest units alt restSplit ih =>
      intro c fuel drop enough
      obtain ⟨fuel, rfl⟩ : ∃ f, fuel = f + 1 := ⟨fuel - 1, by simp at enough; omega⟩
      have unitLength : 0 < unit.length := by
        obtain ⟨ts, tail, unitEq⟩ := alt.head_form
        simp [unitEq]
      have restEnough : rest.length < fuel := by simp at enough; omega
      rw [tryAlternatives_alternative alt restSplit drop]
      simp only [List.filter_cons, alt.isValidatorUnit_eq_false, Bool.not_false, if_true]
      cases attempt : matchType e recur v (.list unit) ctx (some q) with
      | error err =>
          simp only [firstMatch, attempt]
          rfl
      | ok verdict =>
          cases verdict with
          | success mvv =>
              simp only [firstMatch, attempt]
              rfl
          | failure m =>
              simp only [firstMatch, attempt, Option.getD_some, Bool.false_eq_true, if_false,
                ih (Rule.drop_after_unit drop) restEnough]
              rcases firstMatch (fun unit => matchType e recur v (.list unit) ctx (some q))
                  (units.filter fun unit => !Rule.isValidatorUnit unit) with err | found
              · rfl
              · cases found <;> rfl

theorem tryAlternatives_eq_choose {o : GrammarOptions} {lead s : List Rule}
    {units : List (List Rule)} (rulesEq : rules = lead ++ s)
    (leading : lead = [] ∨ ∃ q, lead = [.qualifier q]) (split : Rule.Splits o s units)
    (nonempty : units ≠ []) (impliesAnyEq : impliesAny = units.all Rule.isValidatorUnit) :
    tryAlternatives e recur v rules ctx q impliesAny (rules.length + 1) 0 none none =
      (choose e recur v ctx q units).map fun
        | .ok found => (some found, none)
        | .error failures => (none, loneFailure units failures) := by
  obtain ⟨ts, tail, sEq⟩ : ∃ ts rest, s = .form ts :: rest :=
    split.head_form.resolve_left fun sNil => nonempty (split.units_eq_nil sNil)
  have dropLead : rules.drop lead.length = s := by simp [rulesEq]
  have lengthEq : rules.length = lead.length + s.length := by simp [rulesEq]
  have startEq : Rule.nextUnit rules 0 .exclude = Rule.nextUnit rules lead.length .exclude := by
    subst rulesEq
    exact Rule.nextUnit_lead leading ⟨ts, tail, sEq⟩
  rw [tryAlternatives_congr_cursor startEq]
  cases split with
  | nil => exact absurd rfl nonempty
  | validator name =>
      rw [tryAlternatives_validator dropLead]
      simp [impliesAnyEq, choose, Rule.isValidatorUnit, Except.map]
  | @cons unit rest more alt restSplit =>
      have notValidator := alt.isValidatorUnit_eq_false
      have notAny : impliesAny = false := by simp [impliesAnyEq, notValidator]
      have unitLength : 0 < unit.length := by
        obtain ⟨ts, tail, unitEq⟩ := alt.head_form
        simp [unitEq]
      rw [tryAlternatives_alternative alt restSplit dropLead]
      simp only [choose, List.filter_cons, notValidator, Bool.not_false, if_true,
        List.isEmpty_cons, Bool.false_eq_true, if_false, Option.getD_none]
      by_cases alone : more = []
      · -- the list's only alternative: its failure is the one reported
        subst alone
        cases restSplit.eq_nil_of_units_nil
        have reachesEnd : decide (lead.length + unit.length ≥ rules.length) = true := by
          simp [lengthEq]
        have dropEnd : rules.drop (lead.length + unit.length) = [] :=
          Rule.drop_after_unit dropLead
        cases attempt : matchType e recur v (.list unit) ctx (some q) with
        | error err => simp [firstMatch, attempt, Except.map]
        | ok verdict =>
            cases verdict with
            | success mvv => simp [firstMatch, attempt, Except.map]
            | failure m =>
                simp [firstMatch, attempt, reachesEnd, tryAlternatives_end dropEnd, loneFailure, Except.map,
                  Except.mapError]
      · -- several units: no failure is kept
        obtain ⟨next, later, rfl⟩ := List.exists_cons_of_ne_nil alone
        have restNonempty : rest ≠ [] := fun restNil => alone (restSplit.units_eq_nil restNil)
        have restLength : 0 < rest.length := List.length_pos_iff.mpr restNonempty
        have short : decide (lead.length + unit.length ≥ rules.length) = false := by
          simp [lengthEq]
          omega
        rw [notAny]
        cases attempt : matchType e recur v (.list unit) ctx (some q) with
        | error err => simp [firstMatch, attempt, Except.map]
        | ok verdict =>
            cases verdict with
            | success mvv => simp [firstMatch, attempt, Except.map]
            | failure m =>
                simp only [firstMatch, attempt, short, Bool.false_eq_true, if_false]
                rw [tryAlternatives_several restSplit (Rule.drop_after_unit dropLead)
                  (by simp [lengthEq]; omega)]
                rcases firstMatch (fun unit => matchType e recur v (.list unit) ctx (some q))
                    ((next :: later).filter fun unit => !Rule.isValidatorUnit unit) with
                  err | found
                · rfl
                · cases found <;> rfl

/-- The engine's check of a well-formed list, under a valid context, is the ordered choice
among the list's units. -/
theorem matchAlternatives_eq_orderedChoice {o : GrammarOptions} (valid : ctx.validate = .ok ())
    (wellFormed : Typeset.validate o (.list rules) = .ok ()) (override : Option Qualifier) :
    matchAlternatives e recur v (.list rules) rules ctx override =
      orderedChoice e recur v (.list rules) ctx (override.getD (Typeset.list rules).qualifier)
        (Rule.units rules .exclude).1 := by
  obtain ⟨lead, s, units, rulesEq, leading, split, nonempty⟩ := Rule.splits_of_validate wellFormed
  rw [Rule.units_of_splits rulesEq leading split nonempty]
  simp only [matchAlternatives]
  rw [tryAlternatives_eq_choose rulesEq leading split nonempty ?anyShortcut]
  case anyShortcut =>
    subst rulesEq
    cases split with
    | nil => exact absurd rfl nonempty
    | validator name => rcases leading with rfl | ⟨q, rfl⟩ <;> rfl
    | cons alt restSplit =>
        rcases leading with rfl | ⟨q, rfl⟩ <;> cases alt <;> simp [Rule.isValidatorUnit]
  cases found : choose e recur v ctx (override.getD (Typeset.list rules).qualifier) units with
  | error err => simp [orderedChoice, found, Except.map]
  | ok result =>
      cases result with
      | error failures =>
          simp only [orderedChoice, found, Except.map]
          rfl
      | ok matched =>
          obtain ⟨matched, mvv⟩ := matched
          simp only [orderedChoice, found, Except.map, afterMatch, callCustom, valid]
          split
          · rename_i name last
            have trailing : (Typeset.list rules).trailingValidator? = some name := by
              simp [Typeset.trailingValidator?, last]
            simp only [trailing]
            cases e.custom name ⟨v, matched, .list rules, ctx⟩ with
            | error message => rfl
            | ok accepted => cases accepted <;> rfl
          · rename_i noValidator
            have noTrailing : (Typeset.list rules).trailingValidator? = none := by
              simp only [Typeset.trailingValidator?]
            simp only [noTrailing]

end Loop

end Check

namespace Engine

/-- Checking a value against a well-formed list, under the list's qualifier or one that
overrides it, is the ordered choice among the list's units, with nested values checked by
the engine itself; only an inconsistent context is refused first. -/
theorem checkWithList_orderedChoice (e : Engine) (v : Value) (rules : List Rule) (ctx : Context)
    (override : Option Qualifier) (wellFormed : Typeset.validate {} (.list rules) = .ok ()) :
    e.checkWithList v (.list rules) ctx override =
      match ctx.validate with
      | .error err => .error err
      | .ok () =>
        Check.orderedChoice e e.checkIn v (.list rules) ctx
          (override.getD (Typeset.list rules).qualifier) (Rule.units rules .exclude).1 := by
  cases valid : ctx.validate with
  | error err => simp [checkWithList, valid]
  | ok _ =>
      have verified : (Typeset.list rules).verify {} = .ok () := by
        simp [Typeset.verify, wellFormed, Except.mapError]
      rw [e.checkWithList_eq_matchAlternatives valid verified]
      exact Check.matchAlternatives_eq_orderedChoice valid wellFormed override

theorem checkWithList_orderedChoice_requiredNumberOrEven :
    Typeset.validate {}
        (.list [.qualifier .required, .form (.type .number), .form (.validator "even")]) = .ok () ∧
      (standard fun _ _ => .ok true).checkWithList (.number 2)
          (.list [.qualifier .required, .form (.type .number), .form (.validator "even")])
          (Context.root (.number 2)) none =
        match (Context.root (.number 2)).validate with
        | .error err => .error err
        | .ok () =>
          Check.orderedChoice (standard fun _ _ => .ok true)
            (standard fun _ _ => .ok true).checkIn (.number 2)
            (.list [.qualifier .required, .form (.type .number), .form (.validator "even")])
            (Context.root (.number 2))
            ((none : Option Qualifier).getD
              (Typeset.list [.qualifier .required, .form (.type .number),
                .form (.validator "even")]).qualifier)
            (Rule.units [.qualifier .required, .form (.type .number), .form (.validator "even")]
              .exclude).1 :=
  ⟨rfl, checkWithList_orderedChoice _ _ _ _ _ rfl⟩

end Engine

end Conformance
