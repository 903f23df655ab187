import Conformance.Proofs.Safety
import Conformance.Proofs.Location
import Conformance.Proofs.Canonical

/-!
# Relaxing strictness keeps a value accepted

A check is made more lenient in two ways: by a qualifier that lets more values through
unchecked (`! ≤ + ≤ ? ≤ -`), and by reading shapes without `exactShapes`.  The qualifier of a
fully-qualified typeset reaches the validators of its alternatives and the retry of a deep
`hashMap`, which checks a failing value once more against the same `hashMap` under that
qualifier.  The option reaches every nested context, where a shape's own `exact` argument
overrides it.

Main statement: `Engine.check_relaxed_accepts`.  Take a typeset that passes the deep grammar
check and whose patterns all compile, and custom validators that answer from the value alone.
A value that the check of the typeset's fully-qualified form accepts under `q₁` and `o₁` is
accepted under `q₂` and `o₂` as well, when `q₂` is at least as lenient as `q₁` and is required
whenever `q₁` is, and `o₂` reads shapes exactly only where `o₁` does.  The minimum viable value
may differ, since an earlier alternative can start to accept.

Neither side condition can go (`Engine.relaxed_check_fails`).  A typeset that passes only the
shallow grammar check may hide a nested typeset that breaks the grammar where only the relaxed
check looks: with exact shapes an object with an undeclared property is refused before its
properties are checked.  And `string` reads the qualifier once more: a required string has the
default minimum length 1, and a `max` below the minimum is ignored, so a required string with
`max` 0.5 accepts `"abc"`, which the same string under `+` refuses.

The proof is by strong induction on the depth of the value, as in `Proofs/Safety`: a
validator's lemma assumes the relaxation for the checks of nested values
(`Check.RecurRelaxes`).  Where the strict check passes over an alternative, the relaxed check
of it may accept, or refuse, but raises no error (`Check.runValidator_safe` with every pattern
compiling), so the relaxed ordered choice stops at the same alternative or an earlier one.
-/

namespace Conformance

namespace Qualifier

/-- How much a qualifier lets through unchecked. -/
def leniency : Qualifier → Nat
  | .required => 0
  | .expected => 1
  | .optional => 2
  | .truthy => 3

/-- Qualifiers by what they let through unchecked: `! ≤ + ≤ ? ≤ -`. -/
instance : LE Qualifier := ⟨fun q₁ q₂ => q₁.leniency ≤ q₂.leniency⟩

instance (q₁ q₂ : Qualifier) : Decidable (q₁ ≤ q₂) :=
  inferInstanceAs (Decidable (q₁.leniency ≤ q₂.leniency))

theorem permits_mono {q₁ q₂ : Qualifier} (le : q₁ ≤ q₂) {v : Value}
    (permitted : q₁.permits v = true) : q₂.permits v = true := by
  have rank : q₁.leniency ≤ q₂.leniency := le
  have optional_of_expected : Qualifier.expected.permits v = true →
      Qualifier.optional.permits v = true := by
    cases v <;> simp [permits]
  have truthy_of_optional : Qualifier.optional.permits v = true →
      Qualifier.truthy.permits v = true := by
    cases v <;> simp [permits, Value.truthy]
  cases q₁ with
  | required => cases permitted
  | expected =>
      cases q₂ with
      | required => simp [leniency] at rank
      | expected => exact permitted
      | optional => exact optional_of_expected permitted
      | truthy => exact truthy_of_optional (optional_of_expected permitted)
  | optional =>
      cases q₂ with
      | required | expected => simp [leniency] at rank
      | optional => exact permitted
      | truthy => exact truthy_of_optional permitted
  | truthy =>
      cases q₂ with
      | required | expected | optional => simp [leniency] at rank
      | truthy => exact permitted

/-- `q₂` lets through at least what `q₁` does, and is required when `q₁` is, so that a string
keeps its default minimum length. -/
structure Relaxes (q₁ q₂ : Qualifier) : Prop where
  le : q₁ ≤ q₂
  keepsRequired : q₁ = .required → q₂ = .required

theorem Relaxes.refl (q : Qualifier) : q.Relaxes q :=
  ⟨Nat.le_refl _, id⟩

theorem Relaxes.beq_required {q₁ q₂ : Qualifier} (relaxed : q₁.Relaxes q₂) :
    (q₂ == .required) = (q₁ == .required) := by
  have rank : q₁.leniency ≤ q₂.leniency := relaxed.le
  by_cases required : q₁ = .required
  · simp [required, relaxed.keepsRequired required]
  · -- nothing but `!` itself lies at or below `!`
    have notRequired : q₂ ≠ .required := by
      rintro rfl
      cases q₁ <;> simp_all [leniency]
    simp [required, notRequired]

end Qualifier

namespace Context

/-- `c₂` is `c₁` with shapes read no more strictly: the same container and key, and exact
shapes only where `c₁` has them. -/
structure Relaxes (c₁ c₂ : Context) : Prop where
  parent : c₂.parent = c₁.parent
  parentKey : c₂.parentKey = c₁.parentKey
  exactShapes : c₂.options.exactShapes = true → c₁.options.exactShapes = true

variable {c₁ c₂ : Context}

theorem Relaxes.validate (relaxed : c₁.Relaxes c₂) : c₂.validate = c₁.validate := by
  simp only [Context.validate, relaxed.parent, relaxed.parentKey]

theorem Relaxes.derive (relaxed : c₁.Relaxes c₂) (parent : Value) (key : Option ParentKey) :
    (c₁.derive parent key).Relaxes (c₂.derive parent key) :=
  ⟨rfl, rfl, relaxed.exactShapes⟩

theorem relaxes_root (v : Value) {o₁ o₂ : CheckOptions}
    (looser : o₂.exactShapes = true → o₁.exactShapes = true) :
    (root v o₁).Relaxes (root v o₂) :=
  ⟨rfl, rfl, looser⟩

/-- A shape's own `exact` argument, or else the option of the context, asks for an exact
shape in the relaxed context only where it does in the strict one. -/
theorem Relaxes.exact (relaxed : c₁.Relaxes c₂) (own : Option Bool) :
    own.getD c₂.options.exactShapes = true → own.getD c₁.options.exactShapes = true := by
  cases own with
  | none => exact relaxed.exactShapes
  | some b => exact id

end Context

namespace Typeset

/-- The typeset the relaxed check meets where the strict one meets `ts₁`: the same typeset,
or the same list under a leading qualifier that relaxes `ts₁`'s. -/
inductive Relaxes : Typeset → Typeset → Prop
  | refl (ts : Typeset) : Relaxes ts ts
  | qualifier {q₁ q₂ : Qualifier} (relaxed : q₁.Relaxes q₂) (rest : List Rule) :
      Relaxes (.list (.qualifier q₁ :: rest)) (.list (.qualifier q₂ :: rest))

theorem validate_requalify (o : GrammarOptions) (q₁ q₂ : Qualifier) (rest : List Rule) :
    validate o (.list (.qualifier q₂ :: rest)) = validate o (.list (.qualifier q₁ :: rest)) := by
  simp [validate, listOpening, validateRules, Rule.isQualifier]

theorem trailingValidator?_requalify (q₁ q₂ : Qualifier) (rest : List Rule) :
    (Typeset.list (.qualifier q₂ :: rest)).trailingValidator? =
      (Typeset.list (.qualifier q₁ :: rest)).trailingValidator? := by
  simp only [trailingValidator?, List.getLast?_cons]
  cases rest.getLast? <;> rfl

theorem Relaxes.fullyQualified {q₁ q₂ : Qualifier} (relaxed : q₁.Relaxes q₂) (ts : Typeset) :
    Relaxes (ts.fullyQualified (some q₁)) (ts.fullyQualified (some q₂)) := by
  cases ts with
  | type t => exact .qualifier relaxed _
  | shape props => exact .qualifier relaxed _
  | validator name => exact .qualifier relaxed _
  | list rules =>
      match rules with
      | [] => exact .refl _
      | .qualifier own :: rest => exact .qualifier relaxed _
      | .args entries :: rest => exact .qualifier relaxed _
      | .form f :: rest => exact .qualifier relaxed _

theorem rulesEveryArgs_qualifyRest :
    ∀ (typed : Bool) (rules : List Rule), rulesEveryArgs Args.patternsCompile (qualifyRest typed rules) =
      rulesEveryArgs Args.patternsCompile rules
  | _, [] => rfl
  | typed, r :: rest => by
      have ih := fun typed' => rulesEveryArgs_qualifyRest typed' rest
      cases r with
      | qualifier q => simp [qualifyRest, rulesEveryArgs, ih]
      | args entries => simp [qualifyRest, rulesEveryArgs, ih]
      | form ts =>
          cases ts with
          | type t => simp [qualifyRest, rulesEveryArgs, everyArgs, ih]
          | shape props =>
              simp [qualifyRest, rulesEveryArgs, entriesEveryArgs, everyArgs, ih]
          | list inner =>
              simp [qualifyRest, rulesEveryArgs, entriesEveryArgs, everyArgs, ih]
          | validator name =>
              cases typed <;> simp [qualifyRest, rulesEveryArgs, everyArgs, ih]

theorem everyArgs_fullyQualified (ts : Typeset) (q : Option Qualifier) :
    everyArgs Args.patternsCompile (ts.fullyQualified q) = everyArgs Args.patternsCompile ts := by
  cases ts with
  | type t => rfl
  | validator name => rfl
  | shape props => simp [fullyQualified, everyArgs, rulesEveryArgs, entriesEveryArgs]
  | list rules =>
      cases rules with
      | nil => rfl
      | cons r rest =>
          cases r with
          | qualifier own =>
              simp [fullyQualified, everyArgs, rulesEveryArgs, rulesEveryArgs_qualifyRest]
          | args entries =>
              simp only [fullyQualified, everyArgs, rulesEveryArgs]
              rw [rulesEveryArgs_qualifyRest, rulesEveryArgs]
          | form f =>
              simp only [fullyQualified, everyArgs, rulesEveryArgs]
              rw [rulesEveryArgs_qualifyRest, rulesEveryArgs]

end Typeset

namespace Engine

/-- The custom validators of an engine answer from the value alone: not from the alternative
that matched, the typeset or the context. -/
def ReadsValueOnly (e : Engine) : Prop :=
  ∀ name (inv₁ inv₂ : Invocation), inv₂.value = inv₁.value → e.custom name inv₂ = e.custom name inv₁

end Engine

namespace Check

@[simp]
theorem not_succeeds_error {err : TypesetError} : ¬Succeeds (.error err) := by
  rintro ⟨mvv, raised⟩
  cases raised

@[simp]
theorem not_succeeds_failure {m : Mismatch} : ¬Succeeds (.ok (.failure m)) := by
  rintro ⟨mvv, refused⟩
  cases refused

theorem not_succeeds_map_failure {r : Except TypesetError Mismatch} :
    ¬Succeeds (r.map Verdict.failure) := by
  cases r <;> simp [Except.map]

theorem not_succeeds_mismatch {v : Value} {t : TypeName} {q : Qualifier} {args : Option Args} :
    ¬Succeeds (mismatch v t q args) :=
  not_succeeds_map_failure

theorem not_succeeds_childFailure {v : Value} {t : TypeName} {q : Qualifier} {args : Option Args}
    {segment : String} {child : Mismatch} :
    ¬Succeeds (childFailure v t q args segment child) := by
  unfold childFailure
  cases typesetOf t (some q) args false <;> simp [Except.map]

theorem succeeds_runValidator {e : Engine} {recur : Recur} {v : Value} {ts : Typeset}
    {t : TypeName} {q : Qualifier} {args : Option Args} {ctx : Context} :
    Succeeds (runValidator e recur v ts t q args ctx) ↔
      e.has t = true ∧ Succeeds (validateType recur t v q args ctx) := by
  unfold runValidator
  by_cases known : e.has t = true
  · simp only [known, Bool.not_true, Bool.false_eq_true, if_false, true_and]
    cases validateType recur t v q args ctx with
    | error err => simp
    | ok verdict => cases verdict <;> simp
  · simp [known]

/-- The relaxed checks of values nested below `v` accept what the strict ones accept, against
typesets that pass the deep grammar check and whose patterns compile. -/
def RecurRelaxes (recur : Recur) (v : Value) : Prop :=
  ∀ x, x.depth < v.depth → ∀ {ts₁ ts₂ : Typeset} {c₁ c₂ : Context}, ts₁.Relaxes ts₂ →
    c₁.Relaxes c₂ → Typeset.validate { deep := true } ts₁ = .ok () →
      Typeset.everyArgs Args.patternsCompile ts₁ = true →
        Succeeds (recur x ts₁ c₁) → Succeeds (recur x ts₂ c₂)

theorem permits_relaxes {v : Value} {q₁ q₂ : Qualifier} (le : q₁ ≤ q₂)
    {rest₁ rest₂ : Except TypesetError Verdict}
    (step : q₁.permits v = false → q₂.permits v = false → Succeeds rest₁ → Succeeds rest₂)
    (accepted : Succeeds (if q₁.permits v then .ok (.success v) else rest₁)) :
    Succeeds (if q₂.permits v then .ok (.success v) else rest₂) := by
  by_cases permitted₂ : q₂.permits v = true
  · rw [if_pos permitted₂]
    exact ⟨v, rfl⟩
  · have permitted₁ : q₁.permits v = false := by
      cases strict : q₁.permits v with
      | false => rfl
      | true => exact absurd (Qualifier.permits_mono le strict) permitted₂
    rw [if_neg permitted₂]
    rw [if_neg (by simp [permitted₁])] at accepted
    exact step permitted₁ (by simpa using permitted₂) accepted

theorem ite_relaxes {c : Prop} [Decidable c] {r₁ r₂ s₁ s₂ : Except TypesetError Verdict}
    (pos : c → Succeeds r₁ → Succeeds r₂) (neg : ¬c → Succeeds s₁ → Succeeds s₂)
    (accepted : Succeeds (if c then r₁ else s₁)) : Succeeds (if c then r₂ else s₂) := by
  by_cases holds : c
  · rw [if_pos holds] at accepted ⊢
    exact pos holds accepted
  · rw [if_neg holds] at accepted ⊢
    exact neg holds accepted

theorem ite_refused_relaxes {c₁ c₂ : Prop} [Decidable c₁] [Decidable c₂]
    {r₁ r₂ s₁ s₂ : Except TypesetError Verdict} (refused : ¬Succeeds r₁)
    (neg : ¬c₁ → ¬c₂ ∧ (Succeeds s₁ → Succeeds s₂))
    (accepted : Succeeds (if c₁ then r₁ else s₁)) : Succeeds (if c₂ then r₂ else s₂) := by
  by_cases holds : c₁
  · rw [if_pos holds] at accepted
    exact absurd accepted refused
  · obtain ⟨fails, step⟩ := neg holds
    rw [if_neg holds] at accepted
    rw [if_neg fails]
    exact step accepted

theorem childThen_relaxes {r₁ r₂ : Except TypesetError Verdict}
    {next₁ next₂ : Value → Except TypesetError Verdict}
    {fail₁ fail₂ : Mismatch → Except TypesetError Verdict}
    (child : Succeeds r₁ → Succeeds r₂) (refused : ∀ m, ¬Succeeds (fail₁ m))
    (rest : ∀ mvv₁ mvv₂, Succeeds (next₁ mvv₁) → Succeeds (next₂ mvv₂))
    (accepted : Succeeds (childThen r₁ next₁ fail₁)) : Succeeds (childThen r₂ next₂ fail₂) := by
  cases strict : r₁ with
  | error err => simp [childThen, strict] at accepted
  | ok verdict =>
      cases verdict with
      | failure m =>
          rw [strict] at accepted
          exact absurd accepted (refused m)
      | success mvv₁ =>
          obtain ⟨mvv₂, lenient⟩ := child ⟨mvv₁, strict⟩
          rw [strict] at accepted
          rw [lenient]
          exact rest mvv₁ mvv₂ accepted

theorem optionalThen_relaxes {r₁ r₂ : Except TypesetError (Except Mismatch Value)}
    {next₁ next₂ : Value → Except TypesetError Verdict}
    {fail₁ fail₂ : Mismatch → Except TypesetError Verdict}
    (child : ∀ {mvv₁}, r₁ = .ok (.ok mvv₁) → ∃ mvv₂, r₂ = .ok (.ok mvv₂))
    (refused : ∀ m, ¬Succeeds (fail₁ m))
    (rest : ∀ mvv₁ mvv₂, Succeeds (next₁ mvv₁) → Succeeds (next₂ mvv₂))
    (accepted : Succeeds (optionalThen r₁ next₁ fail₁)) :
    Succeeds (optionalThen r₂ next₂ fail₂) := by
  cases strict : r₁ with
  | error err => simp [optionalThen, strict] at accepted
  | ok checked =>
      cases checked with
      | error m =>
          rw [strict] at accepted
          exact absurd accepted (refused m)
      | ok mvv₁ =>
          obtain ⟨mvv₂, lenient⟩ := child strict
          rw [strict] at accepted
          rw [lenient]
          exact rest mvv₁ mvv₂ accepted

section Loops

variable {recur : Recur} {c₁ c₂ : Context} (relaxed : c₁.Relaxes c₂) {q₁ q₂ : Qualifier}
include relaxed

theorem checkElements_relaxes {arr : Value} {ts : Typeset} {t : TypeName} {args : Option Args}
    (recurRelaxes : RecurRelaxes recur arr)
    (deepValid : Typeset.validate { deep := true } ts = .ok ())
    (compiles : Typeset.everyArgs Args.patternsCompile ts = true) :
    ∀ {i : Nat} {acc₁ acc₂ items : List Value}, (∀ x ∈ items, x.depth < arr.depth) →
      Succeeds (checkElements recur arr ts c₁ t q₁ args i acc₁ items) →
        Succeeds (checkElements recur arr ts c₂ t q₂ args i acc₂ items)
  | _, _, _, [], _, _ => ⟨_, rfl⟩
  | i, acc₁, acc₂, x :: rest, below, accepted => by
      have restBelow : ∀ y ∈ rest, y.depth < arr.depth :=
        fun y member => below y (List.mem_cons_of_mem x member)
      simp only [checkElements] at accepted ⊢
      exact childThen_relaxes
        (recurRelaxes x (below x List.mem_cons_self) (.refl ts) (relaxed.derive arr _) deepValid
          compiles)
        (fun _ => not_succeeds_childFailure)
        (fun _ _ => checkElements_relaxes recurRelaxes deepValid compiles restBelow) accepted

theorem checkShape_relaxes {v : Value} {shape : List (String × Option Typeset)}
    (recurRelaxes : RecurRelaxes recur v) (objectLike : v.isObjectLike = true) :
    ∀ {acc₁ acc₂ : List (String × Value)} {rest : List (String × Option Typeset)},
      Typeset.validateShape { deep := true } rest = .ok () →
        Typeset.shapeEveryArgs Args.patternsCompile rest = true →
          Succeeds (checkShape recur v shape c₁ acc₁ rest) →
            Succeeds (checkShape recur v shape c₂ acc₂ rest)
  | _, _, [], _, _, _ => ⟨_, rfl⟩
  | acc₁, acc₂, (k, none) :: rest, checked, compiles, accepted => by
      rw [Typeset.validateShape.eq_def] at checked
      simp only [checkShape] at accepted ⊢
      exact checkShape_relaxes recurRelaxes objectLike checked
        (by simpa [Typeset.shapeEveryArgs] using compiles) accepted
  | acc₁, acc₂, (k, some ts) :: rest, checked, compiles, accepted => by
      obtain ⟨tsValid, restChecked⟩ := Typeset.validateShape_cons_some checked
      obtain ⟨tsCompiles, restCompiles⟩ : Typeset.everyArgs Args.patternsCompile ts = true ∧
          Typeset.shapeEveryArgs Args.patternsCompile rest = true := by
        simpa [Typeset.shapeEveryArgs] using compiles
      simp only [checkShape] at accepted ⊢
      exact childThen_relaxes
        (recurRelaxes _ (depth_shapeChild_lt objectLike k) (.refl ts) (relaxed.derive v _) tsValid
          tsCompiles)
        (fun _ => not_succeeds_failure)
        (fun _ _ => checkShape_relaxes recurRelaxes objectLike restChecked restCompiles) accepted

theorem checkMembers_relaxes {v : Value} {args : Args} {ts : Typeset}
    (recurRelaxes : RecurRelaxes recur v)
    (deepValid : Typeset.validate { deep := true } ts = .ok ())
    (compiles : Typeset.everyArgs Args.patternsCompile ts = true) :
    ∀ {acc₁ acc₂ items : List Value}, (∀ x ∈ items, x.depth < v.depth) →
      Succeeds (checkMembers recur v q₁ args ts c₁ acc₁ items) →
        Succeeds (checkMembers recur v q₂ args ts c₂ acc₂ items)
  | _, _, [], _, _ => ⟨_, rfl⟩
  | acc₁, acc₂, x :: rest, below, accepted => by
      have restBelow : ∀ y ∈ rest, y.depth < v.depth :=
        fun y member => below y (List.mem_cons_of_mem x member)
      simp only [checkMembers] at accepted ⊢
      exact childThen_relaxes
        (recurRelaxes x (below x List.mem_cons_self) (.refl ts) (relaxed.derive v none) deepValid
          compiles)
        (fun _ => not_succeeds_childFailure)
        (fun _ _ => checkMembers_relaxes recurRelaxes deepValid compiles restBelow) accepted

omit relaxed in
theorem checkDictionaryValue_relaxes {args : Args} {ts : Typeset} {child : Value}
    {cctx₁ cctx₂ : Context}
    (first : Succeeds (recur child ts cctx₁) → Succeeds (recur child ts cctx₂))
    (firstSettles : ∃ verdict, recur child ts cctx₂ = .ok verdict)
    (retry : Succeeds (recur child (.list [.qualifier q₁, .form (.type .hashMap), .args args]) cctx₁) →
      Succeeds (recur child (.list [.qualifier q₂, .form (.type .hashMap), .args args]) cctx₂))
    (accepted : Succeeds (checkDictionaryValue recur q₁ args ts child cctx₁)) :
    Succeeds (checkDictionaryValue recur q₂ args ts child cctx₂) := by
  unfold checkDictionaryValue at accepted ⊢
  cases strict : recur child ts cctx₁ with
  | error err => simp [strict] at accepted
  | ok verdict₁ =>
      cases verdict₁ with
      | success mvv₁ =>
          obtain ⟨mvv₂, lenient⟩ := first ⟨mvv₁, strict⟩
          rw [lenient]
          exact ⟨mvv₂, rfl⟩
      | failure m₁ =>
          simp only [strict] at accepted
          split at accepted
          · rename_i deep
            obtain ⟨verdict₂, lenient⟩ := firstSettles
            rw [lenient]
            cases verdict₂ with
            | success mvv₂ => exact ⟨mvv₂, rfl⟩
            | failure m₂ =>
                simp only [deep, if_true]
                exact retry accepted
          · exact absurd accepted not_succeeds_failure

theorem checkDictionary_relaxes {v : Value} {args : Args} {keyExp : Option Pattern.Compiled}
    {valuesTs : Option Typeset} (recurRelaxes : RecurRelaxes recur v) (recurSafe : RecurSafe recur v)
    (objectLike : v.isObjectLike = true) (qualifierRelaxes : q₁.Relaxes q₂)
    (valuesValid : ∀ ts, valuesTs = some ts → Typeset.validate { deep := true } ts = .ok ())
    (valuesCompile : ∀ ts, valuesTs = some ts → Typeset.everyArgs Args.patternsCompile ts = true)
    (retryValid : Typeset.validate { deep := true }
      (.list [.qualifier q₁, .form (.type .hashMap), .args args]) = .ok ())
    (retryCompiles : Typeset.everyArgs Args.patternsCompile
      (.list [.qualifier q₁, .form (.type .hashMap), .args args]) = true) :
    ∀ {acc₁ acc₂ props : List (String × Value)}, (∀ k x, (k, x) ∈ props → x.depth < v.depth) →
      Succeeds (checkDictionary recur v q₁ args keyExp valuesTs c₁ acc₁ props) →
        Succeeds (checkDictionary recur v q₂ args keyExp valuesTs c₂ acc₂ props)
  | _, _, [], _, _ => ⟨_, rfl⟩
  | acc₁, acc₂, (k, child) :: rest, below, accepted => by
      have restBelow : ∀ k' x, (k', x) ∈ rest → x.depth < v.depth :=
        fun k' x member => below k' x (List.mem_cons_of_mem _ member)
      simp only [checkDictionary] at accepted ⊢
      refine ite_relaxes (fun _ refused => absurd refused not_succeeds_map_failure)
        (fun _ accepted => ?_) accepted
      cases valuesTs with
      | none =>
          exact checkDictionary_relaxes recurRelaxes recurSafe objectLike
            qualifierRelaxes valuesValid valuesCompile retryValid retryCompiles restBelow accepted
      | some ts =>
          have childBelow := below k child List.mem_cons_self
          have derived := relaxed.derive v (some (.prop k))
          have derivedValid := Context.validate_derive (c := c₂) objectLike (some (.prop k))
          have valueRelaxes := checkDictionaryValue_relaxes
            (recurRelaxes child childBelow (.refl ts) derived (valuesValid ts rfl)
              (valuesCompile ts rfl))
            ((recurSafe child childBelow ts _ derivedValid (valuesValid ts rfl)).ok_of
              (valuesCompile ts rfl))
            (recurRelaxes child childBelow (.qualifier qualifierRelaxes _) derived retryValid
              retryCompiles)
          exact childThen_relaxes valueRelaxes (fun _ => not_succeeds_childFailure)
            (fun _ _ => checkDictionary_relaxes recurRelaxes recurSafe objectLike
              qualifierRelaxes valuesValid valuesCompile retryValid retryCompiles restBelow)
            accepted

omit relaxed in
theorem checkOptional_relaxes {ts? : Option Typeset} {x : Value} {cctx₁ cctx₂ : Context}
    (relaxes : ∀ ts, ts? = some ts → Succeeds (recur x ts cctx₁) → Succeeds (recur x ts cctx₂))
    {mvv₁ : Value} (accepted : checkOptional recur ts? x cctx₁ = .ok (.ok mvv₁)) :
    ∃ mvv₂, checkOptional recur ts? x cctx₂ = .ok (.ok mvv₂) := by
  unfold checkOptional at accepted ⊢
  cases ts? with
  | none => exact ⟨_, rfl⟩
  | some ts =>
      simp only at accepted ⊢
      cases strict : recur x ts cctx₁ with
      | error err => simp [strict] at accepted
      | ok verdict =>
          cases verdict with
          | failure m => simp [strict] at accepted
          | success mvv =>
              obtain ⟨mvv₂, lenient⟩ := relaxes ts rfl ⟨mvv, strict⟩
              rw [lenient]
              exact ⟨mvv₂, rfl⟩

theorem checkEntries_relaxes {v : Value} {args : Args} {keysTs valuesTs : Option Typeset}
    {keyExp : Option Pattern.Compiled} (recurRelaxes : RecurRelaxes recur v)
    (keysValid : ∀ ts, keysTs = some ts → Typeset.validate { deep := true } ts = .ok ())
    (keysCompile : ∀ ts, keysTs = some ts → Typeset.everyArgs Args.patternsCompile ts = true)
    (valuesValid : ∀ ts, valuesTs = some ts → Typeset.validate { deep := true } ts = .ok ())
    (valuesCompile : ∀ ts, valuesTs = some ts → Typeset.everyArgs Args.patternsCompile ts = true) :
    ∀ {acc₁ acc₂ entries : List (Value × Value)},
      (∀ key x, (key, x) ∈ entries → key.depth < v.depth ∧ x.depth < v.depth) →
        Succeeds (checkEntries recur v q₁ args keysTs keyExp valuesTs c₁ acc₁ entries) →
          Succeeds (checkEntries recur v q₂ args keysTs keyExp valuesTs c₂ acc₂ entries)
  | _, _, [], _, _ => ⟨_, rfl⟩
  | acc₁, acc₂, (key, child) :: rest, below, accepted => by
      have restBelow : ∀ key' x, (key', x) ∈ rest → key'.depth < v.depth ∧ x.depth < v.depth :=
        fun key' x member => below key' x (List.mem_cons_of_mem _ member)
      have ⟨keyBelow, childBelow⟩ := below key child List.mem_cons_self
      simp only [checkEntries] at accepted ⊢
      refine optionalThen_relaxes
        (checkOptional_relaxes fun ts found => recurRelaxes key keyBelow (.refl ts)
          (relaxed.derive v none) (keysValid ts found) (keysCompile ts found))
        (fun _ => not_succeeds_childFailure) (fun _ _ accepted => ?_) accepted
      refine ite_relaxes (fun _ refused => absurd refused not_succeeds_map_failure)
        (fun _ accepted => ?_) accepted
      exact optionalThen_relaxes
        (checkOptional_relaxes fun ts found => recurRelaxes child childBelow (.refl ts)
          (relaxed.derive v _) (valuesValid ts found) (valuesCompile ts found))
        (fun _ => not_succeeds_childFailure)
        (fun _ _ => checkEntries_relaxes recurRelaxes keysValid keysCompile valuesValid
          valuesCompile restBelow) accepted

end Loops

section Validators

variable {recur : Recur} {v : Value} {c₁ c₂ : Context} {q₁ q₂ : Qualifier} {args : Option Args}

theorem validatePredicate_relaxes {t : TypeName} (le : q₁ ≤ q₂)
    (accepted : Succeeds (validatePredicate t v q₁ args)) :
    Succeeds (validatePredicate t v q₂ args) := by
  unfold validatePredicate at accepted ⊢
  split at accepted
  · rename_i passes
    have lenient : (q₂.permits v || t.holds v) = true := by
      rcases Bool.or_eq_true_iff.mp passes with permitted | holds
      · simp [Qualifier.permits_mono le permitted]
      · simp [holds]
    rw [if_pos lenient]
    exact ⟨v, rfl⟩
  · exact absurd accepted not_succeeds_mismatch

theorem validateNumber_relaxes {t : TypeName} (le : q₁ ≤ q₂)
    (accepted : Succeeds (validateNumber t v q₁ args)) :
    Succeeds (validateNumber t v q₂ args) := by
  unfold validateNumber at accepted ⊢
  refine permits_relaxes le (fun _ _ accepted => ?_) accepted
  exact ite_relaxes (fun _ _ => ⟨_, rfl⟩)
    (fun _ refused => absurd refused not_succeeds_mismatch) accepted

theorem validateString_relaxes (relaxes : q₁.Relaxes q₂)
    (accepted : Succeeds (validateString v q₁ args)) :
    Succeeds (validateString v q₂ args) := by
  unfold validateString at accepted ⊢
  refine permits_relaxes relaxes.le (fun _ _ accepted => ?_) accepted
  have sameMeets : ∀ s a, stringMeets s q₂ a = stringMeets s q₁ a := fun s a => by
    simp only [stringMeets, relaxes.beq_required]
  have sameBare : (q₂ != .required) = (q₁ != .required) := by
    simp only [bne, relaxes.beq_required]
  cases v with
  | string s =>
      cases args with
      | none =>
          simp only [sameBare] at accepted ⊢
          cases bare : (q₁ != Qualifier.required || !s.isEmpty) with
          | true =>
              simp only
              exact ⟨_, rfl⟩
          | false =>
              simp only [bare] at accepted
              exact absurd accepted not_succeeds_mismatch
      | some a =>
          simp only [sameMeets] at accepted ⊢
          cases meets : stringMeets s q₁ a with
          | error err => simp [meets] at accepted
          | ok passed =>
              cases passed with
              | true =>
                  simp only
                  exact ⟨_, rfl⟩
              | false =>
                  simp only [meets] at accepted
                  exact absurd accepted not_succeeds_mismatch
  | _ =>
      simp only at accepted
      exact absurd accepted not_succeeds_mismatch

theorem validateArray_relaxes (relaxed : c₁.Relaxes c₂) (recurRelaxes : RecurRelaxes recur v)
    (le : q₁ ≤ q₂) (fit : ArgsFit True .array args)
    (accepted : Succeeds (validateArray recur v q₁ args c₁)) :
    Succeeds (validateArray recur v q₂ args c₂) := by
  unfold validateArray at accepted ⊢
  refine permits_relaxes le (fun _ _ accepted => ?_) accepted
  cases v with
  | array items =>
      cases args with
      | none => exact ⟨_, rfl⟩
      | some a =>
          simp only at accepted ⊢
          refine ite_relaxes (fun _ refused => absurd refused not_succeeds_mismatch)
            (fun _ accepted => ?_) accepted
          cases found : typesetArg a "$" with
          | none => exact ⟨_, rfl⟩
          | some ts =>
              simp only [found] at accepted
              exact checkElements_relaxes relaxed recurRelaxes
                (typesetArg_deep fit.2.1 rfl (by simp [Typeset.typesetArgNames]) found)
                (typesetArg_compiles fit found trivial)
                (fun x member => Value.depth_lt_of_mem_array member) accepted
  | _ => exact absurd accepted not_succeeds_mismatch

theorem validateSet_relaxes (relaxed : c₁.Relaxes c₂) (recurRelaxes : RecurRelaxes recur v)
    (le : q₁ ≤ q₂) (fit : ArgsFit True .set args)
    (accepted : Succeeds (validateSet recur v q₁ args c₁)) :
    Succeeds (validateSet recur v q₂ args c₂) := by
  unfold validateSet at accepted ⊢
  refine permits_relaxes le (fun _ _ accepted => ?_) accepted
  cases v with
  | set items =>
      cases args with
      | none => exact ⟨_, rfl⟩
      | some a =>
          simp only at accepted ⊢
          refine ite_relaxes (fun _ refused => absurd refused not_succeeds_mismatch)
            (fun _ accepted => ?_) accepted
          cases found : typesetArg a "$values" with
          | none => exact ⟨_, rfl⟩
          | some ts =>
              simp only [found] at accepted
              exact checkMembers_relaxes relaxed recurRelaxes
                (typesetArg_deep fit.2.1 rfl (by simp [Typeset.typesetArgNames]) found)
                (typesetArg_compiles fit found trivial)
                (fun x member => Value.depth_lt_of_mem_set member) accepted
  | _ => exact absurd accepted not_succeeds_mismatch

theorem validateHashMap_relaxes (relaxed : c₁.Relaxes c₂) (recurRelaxes : RecurRelaxes recur v)
    (recurSafe : RecurSafe recur v) (qualifierRelaxes : q₁.Relaxes q₂)
    (fit : ArgsFit True .hashMap args)
    (accepted : Succeeds (validateHashMap recur v q₁ args c₁)) :
    Succeeds (validateHashMap recur v q₂ args c₂) := by
  unfold validateHashMap at accepted ⊢
  refine permits_relaxes qualifierRelaxes.le (fun _ _ accepted => ?_) accepted
  cases v with
  | object cls props =>
      cases args with
      | none => exact ⟨_, rfl⟩
      | some a =>
          simp only at accepted ⊢
          refine ite_relaxes (fun _ refused => absurd refused not_succeeds_mismatch)
            (fun _ accepted => ?_) accepted
          cases keys : keyPattern a with
          | error err => simp [keys] at accepted
          | ok keyExp =>
              simp only [keys] at accepted ⊢
              refine ite_relaxes (fun _ _ => ⟨_, rfl⟩) (fun _ accepted => ?_) accepted
              have retryCompiles := everyArgs_hashMapRetry Args.patternsCompile a q₁
              rw [(fit.2.2 trivial).1, (fit.2.2 trivial).2, Bool.and_self] at retryCompiles
              exact checkDictionary_relaxes relaxed recurRelaxes recurSafe rfl qualifierRelaxes
                (fun ts found => typesetArg_deep fit.2.1 rfl
                  (by simp [Typeset.typesetArgNames]) found)
                (fun ts found => typesetArg_compiles fit found trivial)
                (validate_hashMapRetry fit.2.1 q₁) retryCompiles
                (fun k x member => Value.depth_lt_of_mem_object member) accepted
  | _ => exact absurd accepted not_succeeds_mismatch

theorem validateMap_relaxes (relaxed : c₁.Relaxes c₂) (recurRelaxes : RecurRelaxes recur v)
    (le : q₁ ≤ q₂) (fit : ArgsFit True .map args)
    (accepted : Succeeds (validateMap recur v q₁ args c₁)) :
    Succeeds (validateMap recur v q₂ args c₂) := by
  unfold validateMap at accepted ⊢
  refine permits_relaxes le (fun _ _ accepted => ?_) accepted
  cases v with
  | map entries =>
      cases args with
      | none => exact ⟨_, rfl⟩
      | some a =>
          have typesetValid : ∀ key ∈ Typeset.typesetArgNames .map, ∀ ts,
              typesetArg a key = some ts → Typeset.validate { deep := true } ts = .ok () :=
            fun key named ts found => typesetArg_deep fit.2.1 rfl named found
          simp only at accepted ⊢
          refine ite_relaxes (fun _ refused => absurd refused not_succeeds_mismatch)
            (fun _ accepted => ?_) accepted
          split at accepted
          · simp at accepted
          · refine ite_relaxes (fun _ _ => ⟨_, rfl⟩) (fun _ accepted => ?_) accepted
            exact checkEntries_relaxes relaxed recurRelaxes
              (typesetValid "$keys" (by simp [Typeset.typesetArgNames]))
              (fun ts found => typesetArg_compiles fit found trivial)
              (typesetValid "$values" (by simp [Typeset.typesetArgNames]))
              (fun ts found => typesetArg_compiles fit found trivial)
              (fun key x member => Value.depth_lt_of_mem_map member) accepted
  | _ => exact absurd accepted not_succeeds_mismatch

theorem validateObject_relaxes {t : TypeName} (objectType : t.isObjectType = true)
    (relaxed : c₁.Relaxes c₂) (recurRelaxes : RecurRelaxes recur v) (le : q₁ ≤ q₂)
    (fit : ArgsFit True t args) (accepted : Succeeds (validateObject recur t v q₁ args c₁)) :
    Succeeds (validateObject recur t v q₂ args c₂) := by
  unfold validateObject at accepted ⊢
  refine permits_relaxes le (fun _ _ accepted => ?_) accepted
  cases args with
  | none =>
      simp only [Option.bind_none] at accepted ⊢
      refine ite_relaxes (fun _ refused => absurd refused ?_) (fun _ _ => ⟨_, rfl⟩) accepted
      split <;> simp
  | some a =>
      cases found : Args.shape? a "$" with
      | none =>
          simp only [Option.bind_some, found] at accepted ⊢
          refine ite_relaxes (fun _ refused => absurd refused ?_) (fun _ _ => ⟨_, rfl⟩) accepted
          split <;> simp
      | some s =>
          simp only [Option.bind_some, found, Option.isSome_some, Bool.true_and] at accepted ⊢
          obtain ⟨shapeValid, shapeCompiles⟩ := fit.shape objectType found
          refine ite_refused_relaxes ?_ (fun kept => ?_) accepted
          · split <;> simp
          · have inst : isInstance t v (some a) = true := by
              simp only [Bool.or_eq_true, Bool.not_eq_true', not_or] at kept
              simpa using kept.1
            refine ⟨?_, checkShape_relaxes relaxed recurRelaxes
              (isObjectLike_of_isInstance objectType inst) shapeValid (shapeCompiles trivial)⟩
            cases v with
            | object cls props =>
                by_cases exact₂ : (Args.flag? a "exact").getD c₂.options.exactShapes = true
                · have exact₁ := relaxed.exact (Args.flag? a "exact") exact₂
                  simp only [exact₂, exact₁, if_true] at kept ⊢
                  exact kept
                · simp [exact₂, inst]
            | _ => simp [inst]

theorem validateType_relaxes {t : TypeName} (relaxed : c₁.Relaxes c₂)
    (recurRelaxes : RecurRelaxes recur v) (recurSafe : RecurSafe recur v)
    (qualifierRelaxes : q₁.Relaxes q₂) (fit : ArgsFit True t args)
    (accepted : Succeeds (validateType recur t v q₁ args c₁)) :
    Succeeds (validateType recur t v q₂ args c₂) := by
  cases t with
  | string => exact validateString_relaxes qualifierRelaxes accepted
  | number | finite | int | safeInt | float => exact validateNumber_relaxes qualifierRelaxes.le accepted
  | array => exact validateArray_relaxes relaxed recurRelaxes qualifierRelaxes.le fit accepted
  | anyObject | object | plainObject | classObject =>
      exact validateObject_relaxes rfl relaxed recurRelaxes qualifierRelaxes.le fit accepted
  | hashMap => exact validateHashMap_relaxes relaxed recurRelaxes recurSafe qualifierRelaxes fit accepted
  | map => exact validateMap_relaxes relaxed recurRelaxes qualifierRelaxes.le fit accepted
  | set => exact validateSet_relaxes relaxed recurRelaxes qualifierRelaxes.le fit accepted
  | any | null | boolean | function | regexp | date | error | json =>
      exact validatePredicate_relaxes qualifierRelaxes.le accepted

end Validators

theorem firstMatch_relaxes {attempt₁ attempt₂ : List Rule → Except TypesetError Verdict} :
    ∀ {units : List (List Rule)}, (∀ unit ∈ units, Succeeds (attempt₁ unit) → Succeeds (attempt₂ unit)) →
      (∀ unit ∈ units, ∃ verdict, attempt₂ unit = .ok verdict) →
        (∃ found, firstMatch attempt₁ units = .ok (.ok found)) →
          ∃ found, firstMatch attempt₂ units = .ok (.ok found)
  | [], _, _, ⟨found, matched⟩ => by simp [firstMatch] at matched
  | unit :: rest, relaxes, settles, ⟨found, matched⟩ => by
      simp only [firstMatch] at matched ⊢
      obtain ⟨verdict₂, lenient⟩ := settles unit List.mem_cons_self
      cases strict : attempt₁ unit with
      | error err => simp [strict] at matched
      | ok verdict₁ =>
          cases verdict₁ with
          | success mvv₁ =>
              obtain ⟨mvv₂, accepted⟩ := relaxes unit List.mem_cons_self ⟨mvv₁, strict⟩
              rw [accepted]
              exact ⟨_, rfl⟩
          | failure m₁ =>
              rw [lenient]
              cases verdict₂ with
              | success mvv₂ => exact ⟨_, rfl⟩
              | failure m₂ =>
                  have restFound : ∃ found, firstMatch attempt₁ rest = .ok (.ok found) := by
                    rw [strict] at matched
                    cases restMatch : firstMatch attempt₁ rest with
                    | error err => simp [restMatch, Except.map] at matched
                    | ok result =>
                        cases result with
                        | error failures => simp [restMatch, Except.map, Except.mapError] at matched
                        | ok restFound => exact ⟨restFound, rfl⟩
                  obtain ⟨found₂, restLenient⟩ := firstMatch_relaxes
                    (fun later member => relaxes later (List.mem_cons_of_mem _ member))
                    (fun later member => settles later (List.mem_cons_of_mem _ member)) restFound
                  simp only
                  rw [restLenient]
                  exact ⟨found₂, rfl⟩

section Engine

variable {e : Engine} {recur : Recur} {v : Value} {c₁ c₂ : Context}
variable (complete : ∀ t, e.has t = true) (valueOnly : e.ReadsValueOnly)
  (recurRelaxes : RecurRelaxes recur v) (recurSafe : RecurSafe recur v) (relaxed : c₁.Relaxes c₂)

include complete recurRelaxes recurSafe relaxed in
theorem choose_relaxes {s : List Rule} {units : List (List Rule)} {q₁ q₂ : Qualifier}
    (split : Rule.Splits { deep := true } s units)
    (compiles : Typeset.rulesEveryArgs Args.patternsCompile s = true)
    (qualifierRelaxes : q₁.Relaxes q₂) {found₁ : Typeset × Value}
    (chosen : choose e recur v c₁ q₁ units = .ok (.ok found₁)) :
    ∃ found₂, choose e recur v c₂ q₂ units = .ok (.ok found₂) := by
  unfold choose at chosen ⊢
  simp only at chosen ⊢
  split at chosen
  · rename_i none_
    rw [if_pos none_]
    exact ⟨_, rfl⟩
  · rename_i some_
    rw [if_neg some_]
    have facts : ∀ unit ∈ units.filter (fun unit => !Rule.isValidatorUnit unit),
        ∃ alt : Rule.Alternative { deep := true } unit,
          Typeset.rulesEveryArgs Args.patternsCompile unit = true := by
      intro unit member
      have ⟨inUnits, notValidator⟩ := List.mem_filter.mp member
      exact ⟨split.alternative_of_mem inUnits (by simpa using notValidator),
        split.rulesEveryArgs compiles unit inUnits⟩
    have matched₁ : ∃ found, firstMatch (fun unit => matchType e recur v (.list unit) c₁ (some q₁))
        (units.filter fun unit => !Rule.isValidatorUnit unit) = .ok (.ok found) := by
      cases strict : firstMatch (fun unit => matchType e recur v (.list unit) c₁ (some q₁))
          (units.filter fun unit => !Rule.isValidatorUnit unit) with
      | error err => simp [strict, Except.map] at chosen
      | ok result =>
          cases result with
          | error failures => simp [strict, Except.map] at chosen
          | ok found => exact ⟨found, rfl⟩
    have relaxes : ∀ unit ∈ units.filter (fun unit => !Rule.isValidatorUnit unit),
        Succeeds (matchType e recur v (.list unit) c₁ (some q₁)) →
          Succeeds (matchType e recur v (.list unit) c₂ (some q₂)) := by
      intro unit member accepted
      obtain ⟨alt, unitCompiles⟩ := facts unit member
      rw [matchType_alternative alt q₁, succeeds_runValidator] at accepted
      rw [matchType_alternative alt q₂, succeeds_runValidator]
      exact ⟨accepted.1, validateType_relaxes relaxed recurRelaxes recurSafe qualifierRelaxes
        (argsFit_of_alternative alt fun _ => unitCompiles) accepted.2⟩
    have settles : ∀ unit ∈ units.filter (fun unit => !Rule.isValidatorUnit unit),
        ∃ verdict, matchType e recur v (.list unit) c₂ (some q₂) = .ok verdict := by
      intro unit member
      obtain ⟨alt, unitCompiles⟩ := facts unit member
      rw [matchType_alternative alt q₂]
      exact (runValidator_safe complete recurSafe (argsFit_of_alternative alt
        fun _ => unitCompiles)).ok_of trivial
    obtain ⟨found₂, matched₂⟩ := firstMatch_relaxes relaxes settles matched₁
    rw [matched₂]
    exact ⟨_, rfl⟩

include valueOnly in
theorem afterMatch_relaxes {ts₁ ts₂ : Typeset} {q₁ q₂ : Qualifier} {matched₁ matched₂ : Typeset}
    {mvv₁ mvv₂ : Value} (sameValidator : ts₂.trailingValidator? = ts₁.trailingValidator?)
    (accepted : Succeeds (afterMatch e v ts₁ c₁ q₁ matched₁ mvv₁)) :
    Succeeds (afterMatch e v ts₂ c₂ q₂ matched₂ mvv₂) := by
  unfold afterMatch at accepted ⊢
  rw [sameValidator]
  cases validator : ts₁.trailingValidator? with
  | none => exact ⟨mvv₂, rfl⟩
  | some name =>
      simp only [validator] at accepted
      simp only
      rw [valueOnly name ⟨v, matched₁, ts₁, c₁⟩ ⟨v, matched₂, ts₂, c₂⟩ rfl]
      cases answer : e.custom name ⟨v, matched₁, ts₁, c₁⟩ with
      | ok passed =>
          cases passed with
          | true => exact ⟨mvv₂, rfl⟩
          | false => simp [answer] at accepted
      | error message => simp [answer] at accepted

include complete valueOnly recurRelaxes recurSafe relaxed in
theorem orderedChoice_relaxes {ts₁ ts₂ : Typeset} {s : List Rule} {units : List (List Rule)}
    {q₁ q₂ : Qualifier} (split : Rule.Splits { deep := true } s units)
    (compiles : Typeset.rulesEveryArgs Args.patternsCompile s = true)
    (qualifierRelaxes : q₁.Relaxes q₂)
    (sameValidator : ts₂.trailingValidator? = ts₁.trailingValidator?)
    (accepted : Succeeds (orderedChoice e recur v ts₁ c₁ q₁ units)) :
    Succeeds (orderedChoice e recur v ts₂ c₂ q₂ units) := by
  unfold orderedChoice at accepted ⊢
  cases strict : choose e recur v c₁ q₁ units with
  | error err => simp [strict] at accepted
  | ok result =>
      cases result with
      | error failures => simp [strict] at accepted
      | ok found₁ =>
          obtain ⟨found₂, lenient⟩ := choose_relaxes complete recurRelaxes recurSafe relaxed split
            compiles qualifierRelaxes strict
          rw [strict] at accepted
          rw [lenient]
          exact afterMatch_relaxes valueOnly sameValidator accepted

include complete valueOnly recurRelaxes recurSafe relaxed in
theorem checkStep_relaxes {ts₁ ts₂ : Typeset} (relaxes : ts₁.Relaxes ts₂)
    (deepValid : Typeset.validate { deep := true } ts₁ = .ok ())
    (compiles : Typeset.everyArgs Args.patternsCompile ts₁ = true)
    (accepted : Succeeds (checkStep e recur v ts₁ c₁)) :
    Succeeds (checkStep e recur v ts₂ c₂) := by
  have valid₁ : c₁.validate = .ok () := by
    cases checked : c₁.validate with
    | error err => simp [checkStep, checked] at accepted
    | ok u => rfl
  have valid₂ : c₂.validate = .ok () := by rw [relaxed.validate, valid₁]
  have shallowValid₁ := Typeset.validate_shallow_of_deep deepValid
  cases relaxes with
  | refl _ =>
      simp only [checkStep, valid₁, valid₂, Typeset.verify, shallowValid₁, Except.mapError]
        at accepted ⊢
      cases ts₁ with
      | type t =>
          simp only [matchType, succeeds_runValidator] at accepted ⊢
          exact ⟨accepted.1, validateType_relaxes relaxed recurRelaxes recurSafe
            (.refl _) trivial accepted.2⟩
      | shape props =>
          have sound : Typeset.validateShape { deep := true } props = .ok () := by
            simpa [Typeset.validate] using deepValid
          simp only [matchType, succeeds_runValidator] at accepted ⊢
          exact ⟨accepted.1, validateType_relaxes relaxed recurRelaxes recurSafe (.refl _)
            (argsFit_shape sound fun _ => by simpa [Typeset.everyArgs] using compiles)
            accepted.2⟩
      | validator name =>
          dsimp only at accepted ⊢
          rw [matchValidator_eq_afterMatch valid₁, if_pos (complete .any)] at accepted
          rw [matchValidator_eq_afterMatch valid₂, if_pos (complete .any)]
          exact afterMatch_relaxes valueOnly rfl accepted
      | list rules =>
          obtain ⟨lead, s, units, rulesEq, leading, split, nonempty⟩ :=
            Rule.splits_of_validate deepValid
          have sCompiles : Typeset.rulesEveryArgs Args.patternsCompile s = true := by
            rw [Typeset.everyArgs, rulesEq, Typeset.rulesEveryArgs_append, Bool.and_eq_true]
              at compiles
            exact compiles.2
          dsimp only at accepted ⊢
          rw [matchAlternatives_eq_orderedChoice valid₁ deepValid,
            Rule.units_of_splits rulesEq leading split nonempty] at accepted
          rw [matchAlternatives_eq_orderedChoice valid₂ deepValid,
            Rule.units_of_splits rulesEq leading split nonempty]
          exact orderedChoice_relaxes complete valueOnly recurRelaxes recurSafe relaxed split
            sCompiles (.refl _) rfl accepted
  | @qualifier q₁ q₂ qualifierRelaxes rest =>
      have deepValid₂ : Typeset.validate { deep := true } (.list (.qualifier q₂ :: rest)) = .ok () :=
        (Typeset.validate_requalify _ q₁ q₂ rest).trans deepValid
      have shallowValid₂ := Typeset.validate_shallow_of_deep deepValid₂
      simp only [checkStep, valid₁, valid₂, Typeset.verify, shallowValid₁, shallowValid₂,
        Except.mapError] at accepted ⊢
      obtain ⟨lead, s, units, rulesEq, leading, split, nonempty⟩ :=
        Rule.splits_of_validate deepValid
      have leadEq : lead = [.qualifier q₁] ∧ s = rest := by
        rcases leading with rfl | ⟨own, rfl⟩
        · rcases split.head_form with rfl | ⟨ts, tail, rfl⟩ <;> simp at rulesEq
        · simp only [List.singleton_append, List.cons.injEq] at rulesEq
          exact ⟨by rw [rulesEq.1], rulesEq.2.symm⟩
      obtain ⟨rfl, rfl⟩ := leadEq
      have sCompiles : Typeset.rulesEveryArgs Args.patternsCompile s = true := by
        simpa [Typeset.everyArgs, Typeset.rulesEveryArgs] using compiles
      rw [matchAlternatives_eq_orderedChoice valid₁ deepValid,
        Rule.units_of_splits rulesEq leading split nonempty] at accepted
      have unitsEq₂ : Rule.units (.qualifier q₂ :: s) .exclude = (units, s.length + 1) :=
        Rule.units_of_splits (by rfl : Rule.qualifier q₂ :: s = [.qualifier q₂] ++ s)
          (.inr ⟨q₂, rfl⟩) split nonempty
      rw [matchAlternatives_eq_orderedChoice valid₂ deepValid₂, unitsEq₂]
      exact orderedChoice_relaxes complete valueOnly recurRelaxes recurSafe relaxed split sCompiles
        qualifierRelaxes (Typeset.trailingValidator?_requalify _ _ _) accepted

end Engine

theorem checkFuel_relaxes {e : Engine} (complete : ∀ t, e.has t = true)
    (valueOnly : e.ReadsValueOnly) :
    ∀ (fuel : Nat) (v : Value), v.depth < fuel → ∀ {ts₁ ts₂ : Typeset} {c₁ c₂ : Context},
      ts₁.Relaxes ts₂ → c₁.Relaxes c₂ → Typeset.validate { deep := true } ts₁ = .ok () →
        Typeset.everyArgs Args.patternsCompile ts₁ = true →
          Succeeds (checkFuel e fuel v ts₁ c₁) → Succeeds (checkFuel e fuel v ts₂ c₂)
  | 0, _, below, _, _, _, _, _, _, _, _, _ => absurd below (Nat.not_lt_zero _)
  | fuel + 1, v, below, _, _, _, _, relaxes, relaxed, deepValid, compiles, accepted =>
      checkStep_relaxes complete valueOnly
        (fun x nested => checkFuel_relaxes complete valueOnly fuel x (by omega))
        (fun x nested => checkFuel_safe complete fuel x (by omega)) relaxed relaxes deepValid
        compiles accepted

end Check

namespace Engine

/-- Relaxing strictness keeps a value accepted.  For a typeset that passes the deep grammar
check and whose patterns all compile, and custom validators that answer from the value alone:
when the check of the typeset's fully-qualified form under `q₁` and options `o₁` accepts a
value, so does its check under `q₂` and `o₂`, if `q₂` lets through at least what `q₁` does and
is required whenever `q₁` is, and `o₂` reads shapes exactly only where `o₁` does. -/
theorem check_relaxed_accepts (custom : CustomChecks)
    (valueOnly : ∀ name (inv₁ inv₂ : Invocation), inv₂.value = inv₁.value →
      custom name inv₂ = custom name inv₁)
    {t : Typeset} (deepValid : Typeset.validate { deep := true } t = .ok ())
    (compiles : t.everyArgs Args.patternsCompile = true)
    {q₁ q₂ : Qualifier} (lenient : q₁ ≤ q₂) (keepsRequired : q₁ = .required → q₂ = .required)
    {o₁ o₂ : CheckOptions} (looser : o₂.exactShapes = true → o₁.exactShapes = true) (v : Value)
    (accepted : Check.Succeeds ((Typeset.fullyQualify t (some q₁)).bind fun ts =>
      (standard custom).check v ts o₁)) :
    Check.Succeeds ((Typeset.fullyQualify t (some q₂)).bind fun ts =>
      (standard custom).check v ts o₂) := by
  have shallowValid := Typeset.validate_shallow_of_deep deepValid
  rw [Typeset.fullyQualify_eq_ok shallowValid] at accepted ⊢
  have qualifiedValid : Typeset.validate { deep := true } (t.fullyQualified (some q₁)) = .ok () :=
    Typeset.validate_of_inLanguage
      ((Typeset.inLanguage_of_validate deepValid).fullyQualified (some q₁) fun _ => rfl)
  have qualifiedCompiles : (t.fullyQualified (some q₁)).everyArgs Args.patternsCompile = true := by
    rw [Typeset.everyArgs_fullyQualified, compiles]
  exact Check.checkFuel_relaxes (has_standard custom) valueOnly (v.depth + 1) v
    (Nat.lt_succ_self _) (Typeset.Relaxes.fullyQualified ⟨lenient, keepsRequired⟩ t)
    (Context.relaxes_root v looser) qualifiedValid qualifiedCompiles accepted

/-- A shape checked under `+` with exact shapes accepts `{a: "x"}`, and so does the same shape
under `-` without them. -/
theorem check_relaxed_accepts_shape :
    Check.Succeeds ((Typeset.fullyQualify (.shape [("a", some (.type .string))]) (some .expected)).bind
      fun ts => (standard fun _ _ => .ok true).check (.object none [("a", .string "x")]) ts
        { exactShapes := true }) ∧
    Check.Succeeds ((Typeset.fullyQualify (.shape [("a", some (.type .string))]) (some .truthy)).bind
      fun ts => (standard fun _ _ => .ok true).check (.object none [("a", .string "x")]) ts {}) := by
  refine ⟨?strict, check_relaxed_accepts _ (fun _ _ _ _ => rfl) rfl rfl (by decide) (by decide)
    (fun _ => rfl) _ ?strict⟩
  exact ⟨_, rfl⟩

/-- Neither side condition can go.  With exact shapes, an object with an undeclared property
is refused before its properties are checked, so a nested typeset outside the grammar is met
only by the relaxed check, which raises an error.  And a required `string` has the default
minimum length 1, under which a `max` of 0.5 is ignored: the same `string` under `+` is held
to that `max`. -/
theorem relaxed_check_fails :
    (∃ (t : Typeset) (v : Value), Typeset.validate {} t = .ok () ∧
      t.everyArgs Args.patternsCompile = true ∧
      Check.Succeeds ((Typeset.fullyQualify t (some .required)).bind fun ts =>
        (standard fun _ _ => .ok true).check v ts { exactShapes := true }) ∧
      ¬Check.Succeeds ((Typeset.fullyQualify t (some .required)).bind fun ts =>
        (standard fun _ _ => .ok true).check v ts { exactShapes := false })) ∧
    (∃ (t : Typeset) (v : Value), Typeset.validate { deep := true } t = .ok () ∧
      t.everyArgs Args.patternsCompile = true ∧ Qualifier.required ≤ .expected ∧
      Check.Succeeds ((Typeset.fullyQualify t (some .required)).bind fun ts =>
        (standard fun _ _ => .ok true).check v ts {}) ∧
      ¬Check.Succeeds ((Typeset.fullyQualify t (some .expected)).bind fun ts =>
        (standard fun _ _ => .ok true).check v ts {})) := by
  refine ⟨⟨.list [.qualifier .required, .form (.type .object),
      .args [("$", .typeset (.shape [("a", some (.list []))]))], .form (.type .object)],
    .object none [("a", .number 1), ("b", .number 2)], rfl, rfl, ⟨_, rfl⟩, ?_⟩,
    ⟨.list [.form (.type .string), .args [("max", .data (.number (.float 0.5)))]],
    .string "abc", rfl, rfl, by decide, ⟨_, rfl⟩, ?_⟩⟩
  · rintro ⟨mvv, accepted⟩
    cases accepted
  · rintro ⟨mvv, accepted⟩
    cases accepted

end Engine

end Conformance
