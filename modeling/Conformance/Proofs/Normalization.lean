import Conformance.Proofs.Choice

/-!
# Checking against a normal form

Every typeset has a fully-qualified form (`Typeset.fullyQualified`): a list that starts
with its qualifier, where each alternative is a type with its arguments, a shape becomes
`object` with the shape as its `$` argument, a nested list becomes `array` with the list as
its `$` argument, and a bare custom validator is preceded by `any`.

This file compares a check against a typeset with the check against its normal form.  Both
run the same nested checks, so the comparison is about one level.  They report a failure at
different typesets, so they are compared through what a verdict says apart from that typeset
(`Verdict.report`).  With that, the two agree unless the typeset is a list that holds only a
custom validator: the engine reads such a list as `any` without asking for the validator of
`any`, while its normal form names `any` and so needs it.
-/

namespace Conformance

namespace Mismatch

/-- What a failure says apart from the typeset it is reported at: the value, the path down
to the failure, the fully-qualified typeset that failed and the root cause. -/
def report (m : Mismatch) : Value × List String × Typeset × Option Failure :=
  (m.value, m.path, m.mismatch, m.cause)

@[simp]
theorem report_rewrap (m : Mismatch) (v : Value) (ts : Typeset) (pre : List String) :
    (m.rewrap v ts pre).report = (v, pre ++ m.path, m.mismatch, m.cause) :=
  rfl

end Mismatch

namespace Verdict

/-- A verdict apart from the typeset its failure is reported at. -/
def report : Verdict → Except (Value × List String × Typeset × Option Failure) Value
  | .success mvv => .ok mvv
  | .failure m => .error m.report

end Verdict

namespace Typeset

/-- A list that holds only a custom validator, with or without a qualifier. -/
def isLoneValidator : Typeset → Bool
  | .list [.form (.validator _)] | .list [.qualifier _, .form (.validator _)] => true
  | _ => false

theorem trailingValidator?_list_append {pre s : List Rule} (nonempty : s ≠ []) :
    (Typeset.list (pre ++ s)).trailingValidator? = (Typeset.list s).trailingValidator? := by
  simp [trailingValidator?, List.getLast?_eq_some_getLast nonempty]

theorem fullyQualified_list_none (rules : List Rule) :
    (Typeset.list rules).fullyQualified none =
      (Typeset.list rules).fullyQualified (some (Typeset.list rules).qualifier) := by
  rcases rules with _ | ⟨_ | _ | _, rest⟩ <;> rfl

end Typeset

namespace Engine

/-- A custom validator that does not read the typeset it is invoked for. -/
def IgnoresTypeset (e : Engine) (name : String) : Prop :=
  ∀ (inv : Invocation) (ts : Typeset), e.custom name { inv with typeset := ts } = e.custom name inv

end Engine

namespace Rule

/-- The type an alternative is checked as, with its arguments: a shape is an `object` and
a nested list an `array`, each with itself as the `$` argument. -/
def checkedType : List Rule → TypeName × Option Args
  | [.form (.type t)] => (t, none)
  | [.form (.type t), .args a] => (t, some a)
  | [.form (.shape props)] => (.object, some [("$", .typeset (.shape props))])
  | [.form (.list inner)] => (.array, some [("$", .typeset (.list inner))])
  | _ => (.any, none)

theorem Alternative.checkedType_qualifyRest {o : GrammarOptions} {unit : List Rule}
    (alt : Alternative o unit) : checkedType (Typeset.qualifyRest true unit) = checkedType unit := by
  cases alt <;> rfl

theorem Alternative.fullyQualified_qualifyRest {o : GrammarOptions} {unit : List Rule}
    (alt : Alternative o unit) (q : Qualifier) :
    (Typeset.list (Typeset.qualifyRest true unit)).fullyQualified (some q) =
      (Typeset.list unit).fullyQualified (some q) := by
  cases alt <;> rfl

theorem Splits.alternatives_isEmpty_qualifyRest {o : GrammarOptions} {s : List Rule}
    {units : List (List Rule)} (split : Splits o s units) :
    ((units.map (Typeset.qualifyRest true)).filter fun unit => !isValidatorUnit unit).isEmpty =
      (units.filter fun unit => !isValidatorUnit unit).isEmpty := by
  cases split with
  | nil => rfl
  | validator name => rfl
  | cons alt restSplit =>
      simp [alt.isValidatorUnit_eq_false, alt.qualified.isValidatorUnit_eq_false]

theorem Splits.units_of_lone {o : GrammarOptions} {name : String} {units : List (List Rule)}
    (split : Splits o [.form (.validator name)] units) : units = [[.form (.validator name)]] := by
  generalize sEq : [Rule.form (.validator name)] = s at split
  cases split with
  | nil => cases sEq
  | validator other =>
      cases sEq
      rfl
  | cons alt _ => cases alt <;> simp at sEq

theorem Splits.qualifyRest_ne_nil {o : GrammarOptions} {s : List Rule}
    {units : List (List Rule)} (split : Splits o s units) (nonempty : s ≠ []) :
    Typeset.qualifyRest true s ≠ [] := by
  obtain ⟨ts, rest, rfl⟩ := split.head_form.resolve_left nonempty
  cases ts <;> simp [Typeset.qualifyRest]

theorem Splits.trailingValidator?_qualifyRest {o : GrammarOptions} {s : List Rule}
    {units : List (List Rule)} (split : Splits o s units) :
    (Typeset.list (Typeset.qualifyRest true s)).trailingValidator? =
      (Typeset.list s).trailingValidator? := by
  induction split with
  | nil => rfl
  | validator name => rfl
  | @cons unit rest units alt restSplit ih =>
      rw [alt.qualifyRest_append]
      by_cases restNil : rest = []
      · subst restNil
        cases alt <;> rfl
      · rw [Typeset.trailingValidator?_list_append (restSplit.qualifyRest_ne_nil restNil),
          Typeset.trailingValidator?_list_append restNil, ih]

theorem fullyQualified_split {lead s : List Rule} (leading : lead = [] ∨ ∃ q, lead = [.qualifier q])
    (startsForm : ∃ ts rest, s = .form ts :: rest) (q : Qualifier) :
    (Typeset.list (lead ++ s)).fullyQualified (some q) =
      .list (.qualifier q :: Typeset.qualifyRest false s) := by
  rcases leading with rfl | ⟨own, rfl⟩
  · obtain ⟨ts, rest, rfl⟩ := startsForm
    rfl
  · rfl

theorem isLoneValidator_split {o : GrammarOptions} {lead s : List Rule}
    {units : List (List Rule)} (leading : lead = [] ∨ ∃ q, lead = [.qualifier q])
    (split : Splits o s units) (nonempty : units ≠ []) :
    (Typeset.list (lead ++ s)).isLoneValidator = true ↔ ∃ name, s = [.form (.validator name)] := by
  cases split with
  | nil => exact absurd rfl nonempty
  | validator name => rcases leading with rfl | ⟨q, rfl⟩ <;> simp [Typeset.isLoneValidator]
  | cons alt restSplit =>
      rcases leading with rfl | ⟨q, rfl⟩ <;> cases alt <;> simp [Typeset.isLoneValidator]

end Rule

namespace Check

section OneLevel

variable {e : Engine} {recur : Recur} {v : Value} {ctx : Context}

theorem runValidator_report {t : TypeName} {q : Qualifier} {args : Option Args}
    (ts ts' : Typeset) :
    (runValidator e recur v ts t q args ctx).map Verdict.report =
      (runValidator e recur v ts' t q args ctx).map Verdict.report := by
  unfold runValidator
  split
  · rfl
  · cases validateType recur t v q args ctx with
    | error err => rfl
    | ok verdict => cases verdict <;> rfl

theorem matchType_alternative {o : GrammarOptions} {unit : List Rule}
    (alt : Rule.Alternative o unit) (q : Qualifier) :
    matchType e recur v (.list unit) ctx (some q) =
      runValidator e recur v (.list unit) (Rule.checkedType unit).1 q
        (Rule.checkedType unit).2 ctx := by
  cases alt with
  | typeArgs t entries takesArgs sound =>
      simp [matchType, Typeset.fullyQualified, Typeset.qualifyRest, Typeset.rules?, Rule.nextUnit,
        Rule.isQualifier, Rule.checkedType, takesArgs]
  | _ =>
      simp [matchType, Typeset.fullyQualified, Typeset.qualifyRest, Typeset.rules?, Rule.nextUnit,
        Rule.isQualifier, Rule.checkedType, TypeName.hasArgs]

/-- A choice among alternatives as it is reported: the alternative that matched by its
fully-qualified form, and failures by their reports. -/
def reportFound (q : Qualifier) (found : Except (List Mismatch) (List Rule × Value)) :
    Except (List (Value × List String × Typeset × Option Failure)) (Typeset × Value) :=
  (found.map fun p => ((Typeset.list p.1).fullyQualified (some q), p.2)).mapError
    (List.map Mismatch.report)

theorem map_reportFound_mapError_cons (q : Qualifier) (m : Mismatch)
    (found : Except TypesetError (Except (List Mismatch) (List Rule × Value))) :
    (found.map (·.mapError (m :: ·))).map (reportFound q) =
      (found.map (reportFound q)).map (·.mapError (m.report :: ·)) := by
  rcases found with err | found
  · rfl
  · cases found <;> rfl

theorem firstMatch_qualifyRest {o : GrammarOptions} {q : Qualifier} {s : List Rule}
    {units : List (List Rule)} (split : Rule.Splits o s units) :
    (firstMatch (fun unit => matchType e recur v (.list unit) ctx (some q))
        ((units.map (Typeset.qualifyRest true)).filter fun unit => !Rule.isValidatorUnit unit)).map
        (reportFound q) =
      (firstMatch (fun unit => matchType e recur v (.list unit) ctx (some q))
        (units.filter fun unit => !Rule.isValidatorUnit unit)).map (reportFound q) := by
  induction split with
  | nil => rfl
  | validator name => rfl
  | @cons unit rest units alt restSplit ih =>
      have qualifiedAlt := alt.qualified
      simp only [List.map_cons, List.filter_cons, alt.isValidatorUnit_eq_false,
        qualifiedAlt.isValidatorUnit_eq_false, Bool.not_false, if_true, firstMatch,
        matchType_alternative alt, matchType_alternative qualifiedAlt,
        alt.checkedType_qualifyRest]
      by_cases known : e.has (Rule.checkedType unit).1 = true
      · simp only [runValidator, known, Bool.not_true, Bool.false_eq_true, if_false]
        cases validateType recur (Rule.checkedType unit).1 v q (Rule.checkedType unit).2 ctx with
        | error err => rfl
        | ok verdict =>
            cases verdict with
            | success mvv =>
                simp [reportFound, Except.map, Except.mapError, alt.fullyQualified_qualifyRest]
            | failure m =>
                simp only [map_reportFound_mapError_cons, ih, Mismatch.report_rewrap]
      · simp only [runValidator, known, Bool.not_false, if_true]

theorem choose_report (q : Qualifier) (units : List (List Rule)) :
    (choose e recur v ctx q units).map (·.mapError (List.map Mismatch.report)) =
      if (units.filter fun unit => !Rule.isValidatorUnit unit).isEmpty then
        .ok (.ok ((Typeset.type .any).fullyQualified (some q), v))
      else
        (firstMatch (fun unit => matchType e recur v (.list unit) ctx (some q))
          (units.filter fun unit => !Rule.isValidatorUnit unit)).map (reportFound q) := by
  by_cases empty : (units.filter fun unit => !Rule.isValidatorUnit unit).isEmpty
  · simp only [choose, empty, if_true]
    rfl
  · simp only [choose, empty, Bool.false_eq_true, if_false]
    rcases firstMatch (fun unit => matchType e recur v (.list unit) ctx (some q))
        (units.filter fun unit => !Rule.isValidatorUnit unit) with err | found
    · rfl
    · cases found <;> rfl

theorem choose_qualifyRest {o : GrammarOptions} {s : List Rule} {units : List (List Rule)}
    (split : Rule.Splits o s units) (q : Qualifier) :
    (choose e recur v ctx q (units.map (Typeset.qualifyRest true))).map
        (·.mapError (List.map Mismatch.report)) =
      (choose e recur v ctx q units).map (·.mapError (List.map Mismatch.report)) := by
  rw [choose_report, choose_report, split.alternatives_isEmpty_qualifyRest,
    firstMatch_qualifyRest split]

theorem loneFailure_eq (units : List (List Rule)) (failures : List Mismatch) :
    loneFailure units failures =
      if units.length = 1 ∧ failures.length = 1 then failures.head? else none := by
  match units, failures with
  | [_], [m] => rfl
  | [], _ => simp [loneFailure]
  | _ :: _ :: _, _ => simp [loneFailure]
  | [_], [] => simp [loneFailure]
  | [_], _ :: _ :: _ => simp [loneFailure]

theorem noMatch_report {ts ts' : Typeset} {q : Qualifier} {units units' : List (List Rule)}
    {failures failures' : List Mismatch} (sameLength : units'.length = units.length)
    (sameReports : failures'.map Mismatch.report = failures.map Mismatch.report)
    (sameForm : ts'.fullyQualified (some q) = ts.fullyQualified (some q)) :
    (noMatch v ts' q units' failures').report = (noMatch v ts q units failures).report := by
  have failuresLength : failures'.length = failures.length := by
    simpa using congrArg List.length sameReports
  simp only [noMatch, loneFailure_eq, sameLength, failuresLength]
  by_cases lone : units.length = 1 ∧ failures.length = 1
  · -- a list of one unit reports the failure of that unit
    obtain ⟨m, rfl⟩ := List.length_eq_one_iff.mp lone.2
    obtain ⟨m', rfl⟩ := List.length_eq_one_iff.mp (failuresLength.trans lone.2)
    simp only [List.map_cons, List.map_nil, List.cons.injEq, and_true, Mismatch.report,
      Prod.mk.injEq] at sameReports
    simp [lone, sameReports]
  · simp [lone, Mismatch.report, sameForm]

theorem afterMatch_ok (e : Engine) (v : Value) (ts : Typeset) (ctx : Context) (q : Qualifier)
    (matched : Typeset) (mvv : Value) :
    ∃ verdict, afterMatch e v ts ctx q matched mvv = .ok verdict := by
  unfold afterMatch
  split
  · exact ⟨_, rfl⟩
  · split <;> exact ⟨_, rfl⟩

theorem afterMatch_report {ts ts' : Typeset} {q : Qualifier} (matched : Typeset) (mvv : Value)
    (sameForm : ts'.fullyQualified (some q) = ts.fullyQualified (some q))
    (sameValidator : ts'.trailingValidator? = ts.trailingValidator?)
    (ignoresTypeset : ∀ name, ts.trailingValidator? = some name → e.IgnoresTypeset name) :
    (afterMatch e v ts' ctx q matched mvv).map Verdict.report =
      (afterMatch e v ts ctx q matched mvv).map Verdict.report := by
  unfold afterMatch
  rw [sameValidator]
  cases trailing : ts.trailingValidator? with
  | none => rfl
  | some name =>
      have ignores := ignoresTypeset name trailing ⟨v, matched, ts, ctx⟩ ts'
      simp only at ignores
      simp only [ignores]
      cases e.custom name ⟨v, matched, ts, ctx⟩ with
      | error message => simp [Except.map, Verdict.report, Mismatch.report, sameForm]
      | ok accepted => cases accepted <;> simp [Except.map, Verdict.report, Mismatch.report, sameForm]

theorem orderedChoice_report {ts ts' : Typeset} {q : Qualifier} {units units' : List (List Rule)}
    (sameChoice : (choose e recur v ctx q units').map (·.mapError (List.map Mismatch.report)) =
      (choose e recur v ctx q units).map (·.mapError (List.map Mismatch.report)))
    (sameLength : units'.length = units.length)
    (sameForm : ts'.fullyQualified (some q) = ts.fullyQualified (some q))
    (sameValidator : ts'.trailingValidator? = ts.trailingValidator?)
    (ignoresTypeset : ∀ name, ts.trailingValidator? = some name → e.IgnoresTypeset name) :
    (orderedChoice e recur v ts' ctx q units').map Verdict.report =
      (orderedChoice e recur v ts ctx q units).map Verdict.report := by
  unfold orderedChoice
  cases choice' : choose e recur v ctx q units' with
  | error err' =>
      cases choice : choose e recur v ctx q units with
      | error err => simpa [choice, choice', Except.map] using sameChoice
      | ok found => simp [choice, choice', Except.map] at sameChoice
  | ok found' =>
      cases choice : choose e recur v ctx q units with
      | error err => simp [choice, choice', Except.map] at sameChoice
      | ok found =>
          simp only [choice, choice', Except.map, Except.ok.injEq] at sameChoice
          cases found' with
          | error failures' =>
              cases found with
              | error failures =>
                  simp only [Except.mapError, Except.error.injEq] at sameChoice
                  simp [Except.map, Verdict.report, noMatch_report sameLength sameChoice sameForm]
              | ok matched => simp [Except.mapError] at sameChoice
          | ok matched' =>
              cases found with
              | error failures => simp [Except.mapError] at sameChoice
              | ok matched =>
                  simp only [Except.mapError, Except.ok.injEq] at sameChoice
                  subst sameChoice
                  exact afterMatch_report _ _ sameForm sameValidator ignoresTypeset

theorem orderedChoice_lone (ts : Typeset) (q : Qualifier) (name : String) :
    orderedChoice e recur v ts ctx q [[.form (.validator name)]] =
      afterMatch e v ts ctx q ((Typeset.type .any).fullyQualified (some q)) v :=
  rfl

theorem orderedChoice_anyThen (ts : Typeset) (q : Qualifier) (name : String) :
    orderedChoice e recur v ts ctx q [[.form (.type .any)], [.form (.validator name)]] =
      if e.has .any then afterMatch e v ts ctx q ((Typeset.type .any).fullyQualified (some q)) v
      else .error (.missingValidator .any) := by
  have anyAlternative :
      matchType e recur v (.list [.form (.type .any)]) ctx (some q) =
        runValidator e recur v (.list [.form (.type .any)]) .any q none ctx :=
    matchType_alternative (o := {}) (.type .any) q
  by_cases known : e.has .any = true
  · simp [orderedChoice, choose, firstMatch, Rule.isValidatorUnit, anyAlternative, runValidator,
      known, validateType, validatePredicate, TypeName.holds, Except.map]
    rfl
  · simp [orderedChoice, choose, firstMatch, Rule.isValidatorUnit, anyAlternative, runValidator,
      known, Except.map]

theorem orderedChoice_single_eq {o : GrammarOptions} {unit : List Rule}
    (alt : Rule.Alternative o unit) {ts : Typeset} (noValidator : ts.trailingValidator? = none)
    (q : Qualifier) :
    orderedChoice e recur v ts ctx q [unit] =
      runValidator e recur v ts (Rule.checkedType unit).1 q (Rule.checkedType unit).2 ctx := by
  simp only [orderedChoice, choose, List.filter_cons, List.filter_nil, alt.isValidatorUnit_eq_false,
    Bool.not_false, if_true, List.isEmpty_cons, Bool.false_eq_true, if_false, firstMatch,
    matchType_alternative alt]
  by_cases known : e.has (Rule.checkedType unit).1 = true
  · simp only [runValidator, known, Bool.not_true, Bool.false_eq_true, if_false]
    cases validateType recur (Rule.checkedType unit).1 v q (Rule.checkedType unit).2 ctx with
    | error err => rfl
    | ok verdict =>
        cases verdict with
        | success mvv => simp [Except.map, afterMatch, noValidator]
        | failure m => simp [Except.map, Except.mapError, noMatch, loneFailure, Mismatch.rewrap]
  · simp [runValidator, known, Except.map]

theorem orderedChoice_single {o : GrammarOptions} {unit : List Rule} (alt : Rule.Alternative o unit)
    {ts : Typeset} (noValidator : ts.trailingValidator? = none) (q : Qualifier) (ts' : Typeset) :
    (orderedChoice e recur v ts ctx q [unit]).map Verdict.report =
      (runValidator e recur v ts' (Rule.checkedType unit).1 q (Rule.checkedType unit).2 ctx).map
        Verdict.report := by
  rw [orderedChoice_single_eq alt noValidator]
  exact runValidator_report ts ts'

theorem checkStep_fullyQualified_list {rules : List Rule} (valid : ctx.validate = .ok ())
    (wellFormed : Typeset.validate {} (.list rules) = .ok ())
    (ignoresTypeset : ∀ name, (Typeset.list rules).trailingValidator? = some name →
      e.IgnoresTypeset name)
    (q : Qualifier) :
    (checkStep e recur v ((Typeset.list rules).fullyQualified (some q)) ctx).map Verdict.report =
        (matchAlternatives e recur v (.list rules) rules ctx (some q)).map Verdict.report ↔
      e.has .any = true ∨ (Typeset.list rules).isLoneValidator = false := by
  obtain ⟨lead, s, units, rulesEq, leading, split, nonempty⟩ := Rule.splits_of_validate wellFormed
  subst rulesEq
  have sNonempty : s ≠ [] := fun sNil => nonempty (split.units_eq_nil sNil)
  have normalEq := Rule.fullyQualified_split leading (split.head_form.resolve_left sNonempty) q
  have sameForm : (Typeset.list (.qualifier q :: Typeset.qualifyRest false s)).fullyQualified
      (some q) = (Typeset.list (lead ++ s)).fullyQualified (some q) := by
    rw [← normalEq]
    exact Typeset.fullyQualified_fullyQualified (.list (lead ++ s)) (some q) q
  have normalValid := Typeset.validate_fullyQualified wellFormed (some q)
  rw [normalEq] at normalValid ⊢
  have normalVerified :
      (Typeset.list (.qualifier q :: Typeset.qualifyRest false s)).verify {} = .ok () := by
    simp [Typeset.verify, normalValid, Except.mapError]
  simp only [checkStep, valid, normalVerified]
  rw [matchAlternatives_eq_orderedChoice valid normalValid,
    matchAlternatives_eq_orderedChoice valid wellFormed,
    Rule.units_of_splits rfl leading split nonempty]
  simp only [Option.getD_none, Option.getD_some, Typeset.qualifier]
  by_cases lone : ∃ name, s = [.form (.validator name)]
  · -- the list reads as `any` with no validator for it; its normal form names `any`
    obtain ⟨name, rfl⟩ := lone
    cases split.units_of_lone
    have isLone := (Rule.isLoneValidator_split leading split nonempty).mpr ⟨name, rfl⟩
    have normalUnits : (Rule.units [.qualifier q, .form (.type .any), .form (.validator name)]
        .exclude).1 = [[.form (.type .any)], [.form (.validator name)]] := rfl
    simp only [Typeset.qualifyRest, if_false, Bool.false_eq_true] at sameForm
    simp only [Typeset.qualifyRest, if_false, Bool.false_eq_true, isLone, normalUnits,
      orderedChoice_anyThen, orderedChoice_lone]
    by_cases known : e.has .any = true
    · simp only [known, if_true, true_or, iff_true]
      refine afterMatch_report _ _ sameForm ?_ ignoresTypeset
      rcases leading with rfl | ⟨own, rfl⟩ <;> rfl
    · obtain ⟨verdict, accepted⟩ := afterMatch_ok e v (.list (lead ++ [.form (.validator name)]))
        ctx q ((Typeset.type .any).fullyQualified (some q)) v
      simp [known, accepted, Except.map]
  · -- every unit is qualified on its own, and the choice among them is reported alike
    have notLone : ∀ name, s ≠ [.form (.validator name)] := fun name sEq => lone ⟨name, sEq⟩
    have isLone : (Typeset.list (lead ++ s)).isLoneValidator = false := by
      cases loneList : (Typeset.list (lead ++ s)).isLoneValidator with
      | false => rfl
      | true => exact absurd ((Rule.isLoneValidator_split leading split nonempty).mp loneList) lone
    rw [split.qualifyRest_false notLone] at sameForm ⊢
    have qualifiedUnits := Rule.units_of_splits (List.singleton_append).symm (.inr ⟨q, rfl⟩)
      split.qualifyRest (by simpa using nonempty)
    have sameValidator :
        (Typeset.list (.qualifier q :: Typeset.qualifyRest true s)).trailingValidator? =
          (Typeset.list (lead ++ s)).trailingValidator? := by
      rw [← List.singleton_append,
        Typeset.trailingValidator?_list_append (split.qualifyRest_ne_nil sNonempty),
        Typeset.trailingValidator?_list_append sNonempty, split.trailingValidator?_qualifyRest]
    simp only [isLone, or_true, iff_true, qualifiedUnits]
    exact orderedChoice_report (choose_qualifyRest split q) (by simp) sameForm sameValidator
      ignoresTypeset

theorem matchValidator_eq_afterMatch (valid : ctx.validate = .ok ()) (name : String) :
    matchValidator e recur v (.validator name) name ctx =
      if e.has .any then
        afterMatch e v (.validator name) ctx .default
          ((Typeset.type .any).fullyQualified (some .default)) v
      else .error (.missingValidator .any) := by
  have anyForm : (Typeset.type .any).fullyQualified (some .default) =
      (Typeset.type .any).fullyQualified none := rfl
  have validatorForm : (Typeset.validator name).fullyQualified (some .default) =
      (Typeset.validator name).fullyQualified none := rfl
  by_cases known : e.has .any = true
  · simp only [matchValidator, matchType, runValidator, known, Bool.not_true, Bool.false_eq_true,
      if_false, if_true, validateType, validatePredicate, TypeName.holds, Bool.or_true,
      callCustom, valid, afterMatch, Typeset.trailingValidator?, anyForm, validatorForm]
    cases e.custom name ⟨v, (Typeset.type .any).fullyQualified none, .validator name, ctx⟩ with
    | error message => rfl
    | ok accepted => cases accepted <;> rfl
  · simp [matchValidator, matchType, runValidator, known]

section Forms

variable (valid : ctx.validate = .ok ())
include valid

theorem checkStep_fullyQualified_type (t : TypeName) :
    (checkStep e recur v ((Typeset.type t).fullyQualified none) ctx).map Verdict.report =
      (checkStep e recur v (.type t) ctx).map Verdict.report := by
  have normalValid : Typeset.validate {} (.list [.qualifier .default, .form (.type t)]) = .ok () :=
    Typeset.validate_fullyQualified (rfl : Typeset.validate {} (.type t) = .ok ()) none
  have normalUnits : (Rule.units [.qualifier .default, .form (.type t)] .exclude).1 =
      [[.form (.type t)]] := rfl
  simp only [Typeset.fullyQualified, Option.getD_none, checkStep, valid, Typeset.verify,
    normalValid, Except.mapError]
  rw [matchAlternatives_eq_orderedChoice valid normalValid, normalUnits,
    orderedChoice_single (o := {}) (.type t) rfl _ (.type t)]
  rfl

theorem checkStep_fullyQualified_shape {props : List (String × Option Typeset)}
    (wellFormed : Typeset.validate {} (.shape props) = .ok ()) :
    (checkStep e recur v ((Typeset.shape props).fullyQualified none) ctx).map Verdict.report =
      (checkStep e recur v (.shape props) ctx).map Verdict.report := by
  have normalValid := Typeset.validate_fullyQualified wellFormed none
  have normalUnits : (Rule.units [.qualifier .default, .form (.type .object),
      .args [("$", .typeset (.shape props))]] .exclude).1 =
      [[.form (.type .object), .args [("$", .typeset (.shape props))]]] := rfl
  simp only [Typeset.fullyQualified, Option.getD_none] at normalValid ⊢
  simp only [checkStep, valid, Typeset.verify, normalValid, wellFormed, Except.mapError]
  rw [matchAlternatives_eq_orderedChoice valid normalValid, normalUnits,
    orderedChoice_single (o := {}) (.typeArgs .object _ rfl fun deep => absurd deep Bool.false_ne_true)
      rfl _ (.shape props)]
  rfl

theorem checkStep_fullyQualified_validator {name : String} (ignoresTypeset : e.IgnoresTypeset name) :
    (checkStep e recur v ((Typeset.validator name).fullyQualified none) ctx).map Verdict.report =
      (checkStep e recur v (.validator name) ctx).map Verdict.report := by
  have wellFormed : Typeset.validate {} (.validator name) = .ok () := rfl
  have normalValid : Typeset.validate {}
      (.list [.qualifier .default, .form (.type .any), .form (.validator name)]) = .ok () :=
    Typeset.validate_fullyQualified wellFormed none
  have normalUnits : (Rule.units [.qualifier .default, .form (.type .any), .form (.validator name)]
      .exclude).1 = [[.form (.type .any)], [.form (.validator name)]] := rfl
  simp only [Typeset.fullyQualified, Option.getD_none, checkStep, valid, Typeset.verify,
    normalValid, wellFormed, Except.mapError]
  rw [matchAlternatives_eq_orderedChoice valid normalValid, normalUnits, orderedChoice_anyThen,
    matchValidator_eq_afterMatch valid]
  by_cases known : e.has .any = true
  · simp only [known, if_true]
    exact afterMatch_report _ _ rfl rfl fun _ named => by cases named; exact ignoresTypeset
  · simp [known]

theorem checkStep_fullyQualified {t : Typeset} (wellFormed : Typeset.validate {} t = .ok ())
    (ignoresTypeset : ∀ name, t.trailingValidator? = some name → e.IgnoresTypeset name) :
    (checkStep e recur v (t.fullyQualified none) ctx).map Verdict.report =
        (checkStep e recur v t ctx).map Verdict.report ↔
      e.has .any = true ∨ t.isLoneValidator = false := by
  cases t with
  | type t => exact iff_of_true (checkStep_fullyQualified_type valid t) (.inr rfl)
  | shape props => exact iff_of_true (checkStep_fullyQualified_shape valid wellFormed) (.inr rfl)
  | validator name =>
      exact iff_of_true (checkStep_fullyQualified_validator valid (ignoresTypeset name rfl))
        (.inr rfl)
  | list rules =>
      have verified : (Typeset.list rules).verify {} = .ok () := by
        simp [Typeset.verify, wellFormed, Except.mapError]
      have direct : checkStep e recur v (.list rules) ctx =
          matchAlternatives e recur v (.list rules) rules ctx (some (Typeset.list rules).qualifier) := by
        simp only [checkStep, valid, verified]
        rfl
      rw [Typeset.fullyQualified_list_none, direct]
      exact checkStep_fullyQualified_list valid wellFormed ignoresTypeset _

end Forms

end OneLevel

end Check

namespace Engine

/-- Checking a value against a typeset's normal form agrees with checking it against the
typeset (apart from the typeset a failure is reported at) exactly when the engine has a
validator for `any` or the typeset is not a list of only a custom validator; the same holds
for a list checked under a given qualifier and its normal form under that qualifier. -/
theorem checkIn_fullyQualified_report_iff (e : Engine) :
    (∀ v t ctx, ctx.validate = .ok () → Typeset.validate {} t = .ok () →
      (∀ name, t.trailingValidator? = some name → e.IgnoresTypeset name) →
      ((e.checkIn v (t.fullyQualified none) ctx).map Verdict.report =
          (e.checkIn v t ctx).map Verdict.report ↔
        e.has .any = true ∨ t.isLoneValidator = false)) ∧
    (∀ v rules ctx q, ctx.validate = .ok () → Typeset.validate {} (.list rules) = .ok () →
      (∀ name, (Typeset.list rules).trailingValidator? = some name → e.IgnoresTypeset name) →
      ((e.checkIn v ((Typeset.list rules).fullyQualified (some q)) ctx).map Verdict.report =
          (e.checkWithList v (.list rules) ctx (some q)).map Verdict.report ↔
        e.has .any = true ∨ (Typeset.list rules).isLoneValidator = false)) := by
  constructor
  · intro v t ctx valid wellFormed ignoresTypeset
    rw [checkIn_unfold, checkIn_unfold]
    exact Check.checkStep_fullyQualified valid wellFormed ignoresTypeset
  · intro v rules ctx q valid wellFormed ignoresTypeset
    have verified : (Typeset.list rules).verify {} = .ok () := by
      simp [Typeset.verify, wellFormed, Except.mapError]
    rw [checkIn_unfold, e.checkWithList_eq_matchAlternatives valid verified]
    exact Check.checkStep_fullyQualified_list valid wellFormed ignoresTypeset q

/-- With a validator for `any`, a list of only a custom validator and its normal form are
reported alike. -/
theorem loneValidator_normalForm_agrees :
    ((standard fun _ _ => .ok true).checkIn (.number 1)
        ((Typeset.list [.form (.validator "true")]).fullyQualified none)
        (Context.root (.number 1))).map Verdict.report =
      ((standard fun _ _ => .ok true).checkIn (.number 1) (.list [.form (.validator "true")])
        (Context.root (.number 1))).map Verdict.report :=
  ((checkIn_fullyQualified_report_iff _).1 (.number 1) (.list [.form (.validator "true")])
    (Context.root (.number 1)) rfl rfl fun _ _ _ _ => rfl).mpr (.inl rfl)

/-- With no validator for `any`, a list of only a custom validator accepts a value that its
normal form, `any` then the validator, cannot check. -/
theorem loneValidator_normalForm_disagrees :
    ((empty fun _ _ => .ok true).checkIn (.number 1)
        ((Typeset.list [.form (.validator "true")]).fullyQualified none)
        (Context.root (.number 1))).map Verdict.report ≠
      ((empty fun _ _ => .ok true).checkIn (.number 1) (.list [.form (.validator "true")])
        (Context.root (.number 1))).map Verdict.report := by
  intro agree
  have disagrees := ((checkIn_fullyQualified_report_iff _).1 (.number 1)
    (.list [.form (.validator "true")]) (Context.root (.number 1)) rfl rfl
    fun _ _ _ _ => rfl).mp agree
  simp [Engine.has, empty, Typeset.isLoneValidator] at disagrees

end Engine

end Conformance
