import Conformance.Proofs.Canonical
import Conformance.Proofs.Safety

/-!
# Values a qualifier lets through, and absent values

Every validator first accepts what its qualifier permits, before it looks at the type of the
value or at its arguments.  Otherwise a validator refuses a value its type does not hold, and
raises no error doing so, since it reads no argument first; and a type without arguments accepts
every value it holds.  A value that no type with arguments holds (`undefined`, `null`) is
therefore read by every alternative through its type alone.

So under a qualifier that permits the value, the first alternative of a list accepts it, with the
value itself as its minimum viable value, and only the custom validator has a say.  For a value
that no type with arguments holds, the first alternative whose type holds for it accepts it, the
earlier ones refuse it, and where none holds the check fails.

Main statement: `Engine.checkIn_fullyQualified_absent`, about the fully-qualified form of a
well-formed typeset under a qualifier, on the standard engine: a permitted value is accepted by the
first alternative; under `!` or `+`, `undefined` is accepted exactly by an alternative `any`, which
a custom validator standing alone implies; under `!`, `null` is accepted exactly by `any`, `null`
or `json`; and in each case the custom validator, if any, has the last word.
-/

namespace Conformance

namespace Rule

/-- The alternatives of a list: its units but its custom validator. -/
def alternatives (rules : List Rule) : List (List Rule) :=
  (units rules .exclude).1.filter fun unit => !isValidatorUnit unit

end Rule

namespace Typeset

/-- The alternative of a typeset that is tried first: the typeset itself for a type or a shape,
the first alternative of a list, and `any` for a custom validator that stands alone. -/
def firstAlternative : Typeset → Typeset
  | .validator _ => .type .any
  | .list rules =>
    match Rule.alternatives rules with
    | unit :: _ => .list unit
    | [] => .type .any
  | ts => ts

/-- The types the alternatives of a typeset are checked as, in order: a shape as `object`, a
nested list as `array`, and a custom validator that stands alone as `any`. -/
def alternativeTypes : Typeset → List TypeName
  | .type t => [t]
  | .shape _ => [.object]
  | .validator _ => [.any]
  | .list rules =>
    if (Rule.alternatives rules).isEmpty then [.any]
    else (Rule.alternatives rules).map fun unit => (Rule.checkedType unit).1

end Typeset

namespace Rule

variable {o : GrammarOptions} {unit : List Rule}

theorem Alternative.takes (alt : Alternative o unit) :
    ∀ a, (checkedType unit).2 = some a → (checkedType unit).1.hasArgs = true := by
  cases alt with
  | type t => intro a none_eq; cases none_eq
  | typeArgs t entries takesArgs sound => intro _ _; exact takesArgs
  | shape props sound => intro _ _; rfl
  | list inner sound => intro _ _; rfl

theorem Alternative.eq_type (alt : Alternative o unit)
    (plain : (checkedType unit).1.hasArgs = false) : unit = [.form (.type (checkedType unit).1)] := by
  cases alt with
  | type t => rfl
  | typeArgs t entries takesArgs sound =>
      simp only [checkedType] at plain
      rw [takesArgs] at plain
      cases plain
  | shape props sound => cases plain
  | list inner sound => cases plain

theorem alternative_of_mem_alternatives {rules : List Rule}
    (wellFormed : Typeset.validate o (.list rules) = .ok ()) (member : unit ∈ alternatives rules) :
    Alternative o unit := by
  obtain ⟨lead, s, units, rulesEq, leading, split, nonempty⟩ := splits_of_validate wellFormed
  rw [alternatives, units_of_splits rulesEq leading split nonempty, List.mem_filter] at member
  obtain ⟨member, notValidator⟩ := member
  exact split.alternative_of_mem member (by simpa using notValidator)

theorem Splits.filter_qualifyRest {s : List Rule} {units : List (List Rule)}
    (split : Splits o s units) :
    (units.map (Typeset.qualifyRest true)).filter (fun unit => !isValidatorUnit unit) =
      (units.filter fun unit => !isValidatorUnit unit).map (Typeset.qualifyRest true) := by
  induction split with
  | nil => rfl
  | validator name => rfl
  | cons alt restSplit ih =>
      simp only [List.map_cons, List.filter_cons, alt.isValidatorUnit_eq_false,
        alt.qualified.isValidatorUnit_eq_false, Bool.not_false, if_true, ih]

end Rule

namespace Typeset

theorem alternatives_fullyQualified {t : Typeset} (wellFormed : validate {} t = .ok ())
    (q : Qualifier) :
    ∃ rules, t.fullyQualified (some q) = .list rules ∧
      (Typeset.list rules).trailingValidator? = t.trailingValidator? ∧
      (Rule.alternatives rules).map (fun unit => (Rule.checkedType unit).1) = t.alternativeTypes ∧
      ∃ first rest, Rule.alternatives rules = first :: rest ∧
        (Typeset.list first).fullyQualified (some q) = t.firstAlternative.fullyQualified (some q) := by
  cases t with
  | type t => exact ⟨_, rfl, rfl, rfl, _, _, rfl, rfl⟩
  | shape props => exact ⟨_, rfl, rfl, rfl, _, _, rfl, rfl⟩
  | validator name => exact ⟨_, rfl, rfl, rfl, _, _, rfl, rfl⟩
  | list rules =>
      obtain ⟨lead, s, units, rulesEq, leading, split, nonempty⟩ := Rule.splits_of_validate wellFormed
      subst rulesEq
      have sNonempty : s ≠ [] := fun sNil => nonempty (split.units_eq_nil sNil)
      have normalEq := Rule.fullyQualified_split leading (split.head_form.resolve_left sNonempty) q
      have ownUnits := Rule.units_of_splits rfl leading split nonempty
      by_cases lone : ∃ name, s = [.form (.validator name)]
      · -- a custom validator standing alone implies `any`
        obtain ⟨name, rfl⟩ := lone
        have noAlternatives : Rule.alternatives (lead ++ [.form (.validator name)]) = [] := by
          rw [Rule.alternatives, ownUnits, split.units_of_lone]
          rfl
        have normalAlternatives : Rule.alternatives
            (.qualifier q :: qualifyRest false [.form (.validator name)]) = [[.form (.type .any)]] :=
          rfl
        have sameValidator : (Typeset.list
            (.qualifier q :: qualifyRest false [.form (.validator name)])).trailingValidator? =
              (Typeset.list (lead ++ [.form (.validator name)])).trailingValidator? := by
          rw [Typeset.trailingValidator?_list_append (List.cons_ne_nil _ _)]
          rfl
        refine ⟨_, normalEq, sameValidator, ?_, _, _, normalAlternatives, ?_⟩
        · simp [alternativeTypes, noAlternatives, normalAlternatives, Rule.checkedType]
        · simp only [firstAlternative, noAlternatives]
          rfl
      · -- otherwise the list starts with an alternative, and its units are qualified in place
        have notLone : ∀ name, s ≠ [.form (.validator name)] := fun name sEq => lone ⟨name, sEq⟩
        obtain ⟨first, rest, units', firstAlt, rfl, rfl⟩ : ∃ first rest units',
            Rule.Alternative {} first ∧ s = first ++ rest ∧ units = first :: units' := by
          cases split with
          | nil => exact absurd rfl sNonempty
          | validator name => exact absurd ⟨name, rfl⟩ lone
          | cons alt restSplit => exact ⟨_, _, _, alt, rfl, rfl⟩
        have normalRules : (Typeset.list (lead ++ (first ++ rest))).fullyQualified (some q) =
            .list (.qualifier q :: qualifyRest true (first ++ rest)) := by
          rw [normalEq, split.qualifyRest_false notLone]
        have qualifiedUnits : (Rule.units (.qualifier q :: qualifyRest true (first ++ rest)) .exclude).1 =
            (first :: units').map (qualifyRest true) := by
          have leadEq : Rule.qualifier q :: qualifyRest true (first ++ rest) =
              [.qualifier q] ++ qualifyRest true (first ++ rest) := rfl
          rw [Rule.units_of_splits leadEq (.inr ⟨q, rfl⟩) split.qualifyRest (by simp)]
        have ownAlternatives : Rule.alternatives (lead ++ (first ++ rest)) =
            first :: units'.filter (fun unit => !Rule.isValidatorUnit unit) := by
          simp [Rule.alternatives, ownUnits, firstAlt.isValidatorUnit_eq_false]
        have normalAlternatives : Rule.alternatives (.qualifier q :: qualifyRest true (first ++ rest)) =
            (Rule.alternatives (lead ++ (first ++ rest))).map (qualifyRest true) := by
          rw [Rule.alternatives, Rule.alternatives, qualifiedUnits, ownUnits, split.filter_qualifyRest]
        have sameTypes : ∀ unit ∈ Rule.alternatives (lead ++ (first ++ rest)),
            (Rule.checkedType (qualifyRest true unit)).1 = (Rule.checkedType unit).1 := by
          intro unit member
          rw [(Rule.alternative_of_mem_alternatives wellFormed member).checkedType_qualifyRest]
        have sameValidator :
            (Typeset.list (.qualifier q :: qualifyRest true (first ++ rest))).trailingValidator? =
              (Typeset.list (lead ++ (first ++ rest))).trailingValidator? := by
          rw [← List.singleton_append,
            Typeset.trailingValidator?_list_append (split.qualifyRest_ne_nil sNonempty),
            Typeset.trailingValidator?_list_append sNonempty, split.trailingValidator?_qualifyRest]
        refine ⟨_, normalRules, sameValidator, ?_, _, _, by rw [normalAlternatives, ownAlternatives, List.map_cons], ?_⟩
        · calc (Rule.alternatives (.qualifier q :: qualifyRest true (first ++ rest))).map
                (fun unit => (Rule.checkedType unit).1)
              = (Rule.alternatives (lead ++ (first ++ rest))).map
                  (fun unit => (Rule.checkedType (qualifyRest true unit)).1) := by
                rw [normalAlternatives, List.map_map]
                rfl
            _ = (Rule.alternatives (lead ++ (first ++ rest))).map
                  (fun unit => (Rule.checkedType unit).1) := List.map_congr_left sameTypes
            _ = alternativeTypes (.list (lead ++ (first ++ rest))) := by
                simp [alternativeTypes, ownAlternatives]
        · rw [firstAlt.fullyQualified_qualifyRest]
          simp only [firstAlternative, ownAlternatives]

theorem trailingValidator?_fullyQualified {t : Typeset} (wellFormed : validate {} t = .ok ())
    (q : Qualifier) : (t.fullyQualified (some q)).trailingValidator? = t.trailingValidator? := by
  obtain ⟨rules, normalEq, sameValidator, -⟩ := alternatives_fullyQualified wellFormed q
  rw [normalEq, sameValidator]

theorem alternative_of_mem_fullyQualified {t : Typeset} (wellFormed : validate {} t = .ok ())
    {q : Qualifier} {rules : List Rule} (normalEq : t.fullyQualified (some q) = .list rules)
    {unit : List Rule} (member : unit ∈ Rule.alternatives rules) : Rule.Alternative {} unit :=
  Rule.alternative_of_mem_alternatives (normalEq ▸ validate_fullyQualified wellFormed (some q)) member

end Typeset

namespace TypeName

theorem holds_undefined (t : TypeName) : t.holds .undefined = (t == .any) := by
  cases t <;> rfl

theorem holds_null (t : TypeName) : t.holds .null = decide (t ∈ [TypeName.any, .null, .json]) := by
  cases t <;> rfl

theorem holds_absent {t : TypeName} (takes : t.hasArgs = true) {v : Value}
    (absent : v = .undefined ∨ v = .null) : t.holds v = false := by
  rcases absent with rfl | rfl <;> cases t <;> simp_all [hasArgs, holds_undefined, holds_null]

theorem hasArgs_eq_false_of_holds {v : Value} (untyped : ∀ t : TypeName, t.hasArgs = true → t.holds v = false)
    {t : TypeName} (holds : t.holds v = true) : t.hasArgs = false := by
  cases takes : t.hasArgs with
  | false => rfl
  | true => rw [untyped t takes] at holds; cases holds

end TypeName

namespace Check

section Validators

variable {recur : Recur} {v : Value} {q : Qualifier} {args : Option Args} {ctx : Context}

theorem validateType_permitted (permitted : q.permits v = true) (t : TypeName) :
    validateType recur t v q args ctx = .ok (.success v) := by
  cases t <;> simp [validateType, validateString, validateNumber, validateArray, validateObject,
    validateHashMap, validateMap, validateSet, validatePredicate, permitted]

theorem validateType_holds {t : TypeName} (plain : t.hasArgs = false) (holds : t.holds v = true) :
    validateType recur t v q args ctx = .ok (.success v) := by
  cases t <;> simp_all [TypeName.hasArgs, validateType, validatePredicate]

theorem mismatch_failure {t : TypeName} (takes : ∀ a, args = some a → t.hasArgs = true) :
    ∃ m, mismatch v t q args = .ok (.failure m) := by
  have reported : ∃ m, mismatchAt v t q args [] = .ok m := mismatchAt_ok_of_takes takes []
  obtain ⟨m, found⟩ := reported
  exact ⟨m, by simp [mismatch, found, Except.map]⟩

theorem validateType_refused {t : TypeName} (notPermitted : q.permits v = false)
    (refused : t.holds v = false) (takes : ∀ a, args = some a → t.hasArgs = true) :
    ∃ m, validateType recur t v q args ctx = .ok (.failure m) := by
  have reported : ∃ m, mismatch v t q args = .ok (.failure m) := mismatch_failure takes
  have reportedAt : ∃ m, mismatchAt v t q args [] = .ok m := mismatchAt_ok_of_takes takes []
  obtain ⟨m, reported⟩ := reported
  obtain ⟨m', reportedAt⟩ := reportedAt
  cases t
  case string | array | hashMap | map | set =>
    cases v <;> simp [validateType, validateString, validateArray, validateHashMap,
      validateMap, validateSet, TypeName.holds, notPermitted, reported] at refused ⊢
  case number | finite | int | safeInt | float =>
    cases v <;> simp [validateType, validateNumber, notPermitted, refused, reported]
  case anyObject | object | plainObject | classObject =>
    simp [validateType, validateObject, isInstance, notPermitted, refused, reportedAt]
  all_goals simp [validateType, validatePredicate, notPermitted, refused, reported]

end Validators

section Choice

variable {e : Engine} {recur : Recur} {v : Value} {ctx : Context} {q : Qualifier}

theorem afterMatch_of_none {ts : Typeset} (noValidator : ts.trailingValidator? = none)
    (matched : Typeset) (mvv : Value) : afterMatch e v ts ctx q matched mvv = .ok (.success mvv) := by
  simp [afterMatch, noValidator]

theorem firstMatch_find {attempt : List Rule → Except TypesetError Verdict}
    (accepts : List Rule → Bool) {units : List (List Rule)}
    (decides : ∀ unit ∈ units, (accepts unit = true → attempt unit = .ok (.success v)) ∧
      (accepts unit = false → ∃ m, attempt unit = .ok (.failure m))) :
    ∃ failures, firstMatch attempt units =
      match units.find? accepts with
      | some unit => .ok (.ok (unit, v))
      | none => .ok (.error failures) := by
  induction units with
  | nil => exact ⟨[], rfl⟩
  | cons unit rest ih =>
      obtain ⟨failures, later⟩ :=
        ih fun unit' member => decides unit' (List.mem_cons_of_mem unit member)
      cases accepted : accepts unit with
      | true =>
          have found := (decides unit List.mem_cons_self).1 accepted
          exact ⟨[], by simp [firstMatch, found, accepted]⟩
      | false =>
          obtain ⟨m, refused⟩ := (decides unit List.mem_cons_self).2 accepted
          refine ⟨m :: failures, ?_⟩
          simp only [firstMatch, refused, later, List.find?_cons, accepted]
          cases rest.find? accepts <;> rfl

theorem orderedChoice_head (ts : Typeset) {units : List (List Rule)} {first : List Rule}
    {rest : List (List Rule)}
    (alternativesEq : units.filter (fun unit => !Rule.isValidatorUnit unit) = first :: rest)
    (accepted : matchType e recur v (.list first) ctx (some q) = .ok (.success v)) :
    orderedChoice e recur v ts ctx q units =
      afterMatch e v ts ctx q ((Typeset.list first).fullyQualified (some q)) v := by
  simp [orderedChoice, choose, alternativesEq, firstMatch, accepted, Except.map]

theorem orderedChoice_find (ts : Typeset) {units : List (List Rule)} (accepts : List Rule → Bool)
    (decides : ∀ unit ∈ units.filter (fun unit => !Rule.isValidatorUnit unit),
      (accepts unit = true → matchType e recur v (.list unit) ctx (some q) = .ok (.success v)) ∧
      (accepts unit = false → ∃ m, matchType e recur v (.list unit) ctx (some q) = .ok (.failure m)))
    (nonempty : units.filter (fun unit => !Rule.isValidatorUnit unit) ≠ []) :
    (∀ unit, (units.filter fun unit => !Rule.isValidatorUnit unit).find? accepts = some unit →
      orderedChoice e recur v ts ctx q units =
        afterMatch e v ts ctx q ((Typeset.list unit).fullyQualified (some q)) v) ∧
    ((units.filter fun unit => !Rule.isValidatorUnit unit).find? accepts = none →
      ∃ m, orderedChoice e recur v ts ctx q units = .ok (.failure m)) := by
  obtain ⟨failures, found⟩ := firstMatch_find accepts decides
  have tried : (units.filter fun unit => !Rule.isValidatorUnit unit).isEmpty = false :=
    List.isEmpty_eq_false_iff.mpr nonempty
  constructor
  · intro unit first
    simp [orderedChoice, choose, tried, found, first, Except.map]
  · intro noneFound
    exact ⟨noMatch v ts q units failures,
      by simp [orderedChoice, choose, tried, found, noneFound, Except.map]⟩

end Choice

section Attempts

variable {e : Engine} {recur : Recur} {v : Value} {ctx : Context} {q : Qualifier}
  {o : GrammarOptions} {unit : List Rule}

theorem matchType_permitted (alt : Rule.Alternative o unit)
    (known : e.has (Rule.checkedType unit).1 = true) (permitted : q.permits v = true) :
    matchType e recur v (.list unit) ctx (some q) = .ok (.success v) := by
  rw [matchType_alternative alt, runValidator, validateType_permitted permitted]
  simp [known]

theorem matchType_untyped (alt : Rule.Alternative o unit)
    (known : e.has (Rule.checkedType unit).1 = true) (notPermitted : q.permits v = false)
    (untyped : ∀ t : TypeName, t.hasArgs = true → t.holds v = false) :
    ((Rule.checkedType unit).1.holds v = true →
        matchType e recur v (.list unit) ctx (some q) = .ok (.success v)) ∧
      ((Rule.checkedType unit).1.holds v = false →
        ∃ m, matchType e recur v (.list unit) ctx (some q) = .ok (.failure m)) := by
  rw [matchType_alternative alt]
  constructor
  · intro holds
    rw [runValidator, validateType_holds (TypeName.hasArgs_eq_false_of_holds untyped holds) holds]
    simp [known]
  · intro refused
    have failed : ∃ m, validateType recur (Rule.checkedType unit).1 v q (Rule.checkedType unit).2 ctx =
        .ok (.failure m) := validateType_refused notPermitted refused alt.takes
    obtain ⟨m, failed⟩ := failed
    exact ⟨m.rewrap v (.list unit) [], by simp [runValidator, known, failed]⟩

theorem checkStep_list {rules : List Rule} (valid : ctx.validate = .ok ())
    (wellFormed : Typeset.validate {} (.list rules) = .ok ()) :
    checkStep e recur v (.list rules) ctx =
      orderedChoice e recur v (.list rules) ctx (Typeset.list rules).qualifier
        (Rule.units rules .exclude).1 := by
  have verified : (Typeset.list rules).verify {} = .ok () := by
    simp [Typeset.verify, wellFormed, Except.mapError]
  simp only [checkStep, valid, verified]
  exact matchAlternatives_eq_orderedChoice valid wellFormed none

end Attempts

end Check

namespace Engine

section Standard

variable (custom : CustomChecks) {t : Typeset} (wellFormed : Typeset.validate {} t = .ok ())
  (q : Qualifier) {ctx : Context} (valid : ctx.validate = .ok ())
include wellFormed valid

theorem checkIn_fullyQualified_eq {rules : List Rule} (normalEq : t.fullyQualified (some q) = .list rules)
    (v : Value) :
    (standard custom).checkIn v (t.fullyQualified (some q)) ctx =
      Check.orderedChoice (standard custom) (standard custom).checkIn v (.list rules) ctx q
        (Rule.units rules .exclude).1 := by
  have normalValid : Typeset.validate {} (.list rules) = .ok () :=
    normalEq ▸ Typeset.validate_fullyQualified wellFormed (some q)
  have qualifierEq : (Typeset.list rules).qualifier = q :=
    normalEq ▸ Typeset.qualifier_fullyQualified (Typeset.inLanguage_of_validate wellFormed) (some q)
  rw [normalEq, checkIn_unfold, Check.checkStep_list valid normalValid, qualifierEq]

theorem checkIn_fullyQualified_permitted {v : Value} (permitted : q.permits v = true) :
    (standard custom).checkIn v (t.fullyQualified (some q)) ctx =
      Check.afterMatch (standard custom) v (t.fullyQualified (some q)) ctx q
        (t.firstAlternative.fullyQualified (some q)) v := by
  obtain ⟨rules, normalEq, -, -, first, rest, firstEq, firstForm⟩ :=
    Typeset.alternatives_fullyQualified wellFormed q
  have firstMember : first ∈ Rule.alternatives rules := by
    rw [firstEq]
    exact List.mem_cons_self
  have accepted : Check.matchType (standard custom) (standard custom).checkIn v (.list first) ctx
      (some q) = .ok (.success v) :=
    Check.matchType_permitted (Typeset.alternative_of_mem_fullyQualified wellFormed normalEq firstMember)
      (has_standard custom _) permitted
  rw [checkIn_fullyQualified_eq custom wellFormed q valid normalEq,
    Check.orderedChoice_head _ firstEq accepted, ← normalEq, firstForm]

theorem checkIn_fullyQualified_untyped {w : Value} (notPermitted : q.permits w = false)
    (untyped : ∀ t : TypeName, t.hasArgs = true → t.holds w = false) :
    (∀ T, t.alternativeTypes.find? (fun T => T.holds w) = some T →
      (standard custom).checkIn w (t.fullyQualified (some q)) ctx =
        Check.afterMatch (standard custom) w (t.fullyQualified (some q)) ctx q
          ((Typeset.type T).fullyQualified (some q)) w) ∧
    (t.alternativeTypes.find? (fun T => T.holds w) = none →
      ∃ m, (standard custom).checkIn w (t.fullyQualified (some q)) ctx = .ok (.failure m)) := by
  obtain ⟨rules, normalEq, -, typesEq, first, rest, firstEq, -⟩ :=
    Typeset.alternatives_fullyQualified wellFormed q
  let accepts := fun unit => (Rule.checkedType unit).1.holds w
  have decides : ∀ unit ∈ Rule.alternatives rules,
      (accepts unit = true → Check.matchType (standard custom) (standard custom).checkIn w
          (.list unit) ctx (some q) = .ok (.success w)) ∧
        (accepts unit = false → ∃ m, Check.matchType (standard custom)
          (standard custom).checkIn w (.list unit) ctx (some q) = .ok (.failure m)) :=
    fun unit member => Check.matchType_untyped
      (Typeset.alternative_of_mem_fullyQualified wellFormed normalEq member) (has_standard custom _)
      notPermitted untyped
  have choice := Check.orderedChoice_find (t.fullyQualified (some q)) accepts decides
    (by rw [← Rule.alternatives, firstEq]; simp)
  have findEq : t.alternativeTypes.find? (fun T => T.holds w) =
      ((Rule.alternatives rules).find? accepts).map fun unit => (Rule.checkedType unit).1 := by
    rw [← typesEq, List.find?_map]
    rfl
  rw [checkIn_fullyQualified_eq custom wellFormed q valid normalEq, ← normalEq]
  constructor
  · intro T typeFound
    rw [findEq, Option.map_eq_some_iff] at typeFound
    obtain ⟨unit, unitFound, rfl⟩ := typeFound
    have alt := Typeset.alternative_of_mem_fullyQualified wellFormed normalEq
      (List.mem_of_find?_eq_some unitFound)
    have accepted : accepts unit = true := List.find?_some unitFound
    have plain : (Rule.checkedType unit).1.hasArgs = false :=
      TypeName.hasArgs_eq_false_of_holds untyped accepted
    rw [choice.1 unit unitFound, alt.eq_type plain]
    rfl
  · intro noneFound
    rw [findEq, Option.map_eq_none_iff] at noneFound
    exact choice.2 noneFound

end Standard

/-- Qualifiers and absent values.  On the standard engine, take the fully-qualified form, under a
qualifier `q`, of a well-formed typeset `t`, and a consistent context.  A value that `q` permits
is accepted by the first alternative of `t` as itself, no later alternative being tried: the
check succeeds with the value itself when `t` has no custom validator, and otherwise the custom
validator decides, seeing that first alternative as the match.  Under `!` or `+`, `undefined` is
accepted exactly by an alternative `any`, written or implied by a custom validator standing
alone, again with the custom validator having the last word; under `!`, `null` is accepted by
the first alternative `any`, `null` or `json` in the same way, and where there is none the check
fails. -/
theorem checkIn_fullyQualified_absent (custom : CustomChecks) {t : Typeset}
    (wellFormed : Typeset.validate {} t = .ok ()) (q : Qualifier) {ctx : Context}
    (valid : ctx.validate = .ok ()) :
    let e := standard custom
    let normal := t.fullyQualified (some q)
    t.fullyQualify (some q) = .ok normal ∧ normal.trailingValidator? = t.trailingValidator? ∧
      (∀ v, q.permits v = true →
        e.checkIn v normal ctx =
            Check.afterMatch e v normal ctx q (t.firstAlternative.fullyQualified (some q)) v ∧
          (t.trailingValidator? = none → e.checkIn v normal ctx = .ok (.success v))) ∧
      (q = .required ∨ q = .expected →
        (.any ∈ t.alternativeTypes → e.checkIn .undefined normal ctx =
            Check.afterMatch e .undefined normal ctx q ((Typeset.type .any).fullyQualified (some q))
              .undefined) ∧
          (.any ∉ t.alternativeTypes → ∃ m, e.checkIn .undefined normal ctx = .ok (.failure m))) ∧
      (q = .required →
        (∀ T, t.alternativeTypes.find? (fun T => T ∈ [TypeName.any, .null, .json]) = some T →
          e.checkIn .null normal ctx =
            Check.afterMatch e .null normal ctx q ((Typeset.type T).fullyQualified (some q)) .null) ∧
          (t.alternativeTypes.find? (fun T => T ∈ [TypeName.any, .null, .json]) = none →
            ∃ m, e.checkIn .null normal ctx = .ok (.failure m))) := by
  intro e normal
  have sameValidator := Typeset.trailingValidator?_fullyQualified wellFormed q
  refine ⟨Typeset.fullyQualify_eq_ok wellFormed (some q), sameValidator, fun v permitted => ?_,
    fun absent => ?_, fun required => ?_⟩
  · have chosen := checkIn_fullyQualified_permitted custom wellFormed q valid permitted
    refine ⟨chosen, fun noValidator => ?_⟩
    rw [chosen, Check.afterMatch_of_none (sameValidator.trans noValidator)]
  · -- under `!` and `+`, `undefined` is checked, and only `any` holds it
    have notPermitted : q.permits .undefined = false := by
      rcases absent with rfl | rfl <;> rfl
    have untyped := checkIn_fullyQualified_untyped custom wellFormed q valid notPermitted
      (fun _ takes => TypeName.holds_absent takes (.inl rfl))
    refine ⟨fun member => ?_, fun notMember => untyped.2 ?_⟩
    · obtain ⟨T, found⟩ : ∃ T, t.alternativeTypes.find? (fun T => T.holds .undefined) = some T :=
        Option.ne_none_iff_exists'.mp fun noneFound => by
          simpa [TypeName.holds_undefined] using List.find?_eq_none.mp noneFound .any member
      have isAny : T = .any := by
        simpa [TypeName.holds_undefined] using List.find?_some found
      subst isAny
      exact untyped.1 _ found
    · refine List.find?_eq_none.mpr fun T member holds => notMember ?_
      have isAny : T = .any := by simpa [TypeName.holds_undefined] using holds
      exact isAny ▸ member
  · -- under `!`, `null` is checked, and only `any`, `null` and `json` hold it
    subst required
    have untyped := checkIn_fullyQualified_untyped custom wellFormed .required valid rfl
      (fun _ takes => TypeName.holds_absent takes (.inr rfl))
    have sameFind : t.alternativeTypes.find? (fun T => T.holds .null) =
        t.alternativeTypes.find? (fun T => T ∈ [TypeName.any, .null, .json]) := by
      simp only [TypeName.holds_null]
    rw [sameFind] at untyped
    exact untyped

/-- Under `!`, `null` against a string or `null` is accepted as `null`. -/
theorem checkIn_fullyQualified_absent_stringOrNull :
    Typeset.validate {} (.list [.form (.type .string), .form (.type .null)]) = .ok () ∧
      (Context.root .null).validate = .ok () ∧
      (standard fun _ _ => .ok true).checkIn .null
          ((Typeset.list [.form (.type .string), .form (.type .null)]).fullyQualified
            (some .required)) (Context.root .null) =
        .ok (.success .null) :=
  ⟨rfl, rfl, ((checkIn_fullyQualified_absent (fun _ _ => .ok true) rfl .required rfl).2.2.2.2
    rfl).1 .null rfl⟩

end Engine

end Conformance
