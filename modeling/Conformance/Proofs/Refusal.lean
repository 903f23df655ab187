import Conformance.Proofs.Absence

/-!
# The failure a refused list reports

When no alternative of a list accepts a value, the engine reports either the failure of the
one alternative, moved up to the list, or a failure against the whole list with an empty path,
the list's fully-qualified form as mismatch and no root cause.  It tells the two apart by the
position reached after the first unit: the list has one alternative exactly when that unit
ends the list.  A trailing custom validator is a unit of its own, so a list of one alternative
followed by a validator reports the failure against the whole list, and the path into a nested
value that the alternative found is lost.

Main statement: `Engine.checkWithList_refusedReport`, for a well-formed list in a consistent
context, with the three cases: one alternative and nothing after it, one alternative and a
custom validator, and several alternatives.  `Engine.checkWithList_validatorHidesChildPath`
is an array of strings followed by a validator, whose failing element is not reported.
-/

namespace Conformance

namespace Rule

theorem Alternative.validate_list {o : GrammarOptions} {unit : List Rule}
    (alt : Alternative o unit) : Typeset.validate {} (.list unit) = .ok () := by
  cases alt with
  | typeArgs t entries takes _ =>
      simp [Typeset.validate, Typeset.listOpening, Typeset.validateRules, Typeset.listClosing,
        takes]
  | _ =>
      simp [Typeset.validate, Typeset.listOpening, Typeset.validateRules, Typeset.listClosing]

/-- The custom validator a split list ends with, as the unit it is cut into. -/
def validatorUnits (s : List Rule) : List (List Rule) :=
  match (Typeset.list s).trailingValidator? with
  | some name => [[.form (.validator name)]]
  | none => []

theorem Splits.units_eq {o : GrammarOptions} {s : List Rule} {units : List (List Rule)}
    (split : Splits o s units) :
    units = units.filter (fun unit => !isValidatorUnit unit) ++ validatorUnits s := by
  induction split with
  | nil => rfl
  | validator name => rfl
  | @cons unit rest units alt restSplit ih =>
      have notValidator := alt.isValidatorUnit_eq_false
      have sameValidator : validatorUnits (unit ++ rest) = validatorUnits rest := by
        by_cases restNil : rest = []
        · subst restNil
          cases alt <;> rfl
        · simp only [validatorUnits, Typeset.trailingValidator?_list_append restNil]
      rw [List.filter_cons, notValidator, sameValidator]
      simpa using ih

theorem units_eq_alternatives {o : GrammarOptions} {rules : List Rule}
    (wellFormed : Typeset.validate o (.list rules) = .ok ()) :
    (units rules .exclude).1 = alternatives rules ++ validatorUnits rules := by
  obtain ⟨lead, s, units, rulesEq, leading, split, nonempty⟩ := splits_of_validate wellFormed
  have sNonempty : s ≠ [] := fun sNil => nonempty (split.units_eq_nil sNil)
  have unitsEq := units_of_splits rulesEq leading split nonempty
  rw [alternatives, unitsEq, rulesEq, validatorUnits, Typeset.trailingValidator?_list_append sNonempty]
  exact split.units_eq

end Rule

namespace Check

section Refused

variable {e : Engine} {recur : Recur} {v : Value} {ctx : Context} {q : Qualifier}

theorem firstMatch_refused {attempt : List Rule → Except TypesetError Verdict} :
    ∀ {units : List (List Rule)}, (∀ unit ∈ units, ∃ m, attempt unit = .ok (.failure m)) →
      ∃ failures, List.Forall₂ (fun unit m => attempt unit = .ok (.failure m)) units failures ∧
        firstMatch attempt units = .ok (.error failures)
  | [], _ => ⟨[], .nil, rfl⟩
  | unit :: rest, refused => by
      obtain ⟨m, first⟩ := refused unit List.mem_cons_self
      obtain ⟨failures, each, later⟩ :=
        firstMatch_refused fun unit' member => refused unit' (List.mem_cons_of_mem unit member)
      exact ⟨m :: failures, .cons first each,
        by simp [firstMatch, first, later, Except.map, Except.mapError]⟩

theorem orderedChoice_refused (ts : Typeset) {units : List (List Rule)}
    (tried : units.filter (fun unit => !Rule.isValidatorUnit unit) ≠ [])
    (refused : ∀ unit ∈ units.filter (fun unit => !Rule.isValidatorUnit unit),
      ∃ m, matchType e recur v (.list unit) ctx (some q) = .ok (.failure m)) :
    ∃ failures, List.Forall₂
        (fun unit m => matchType e recur v (.list unit) ctx (some q) = .ok (.failure m))
        (units.filter fun unit => !Rule.isValidatorUnit unit) failures ∧
      orderedChoice e recur v ts ctx q units = .ok (.failure (noMatch v ts q units failures)) := by
  obtain ⟨failures, each, none⟩ := firstMatch_refused refused
  have nonempty : (units.filter fun unit => !Rule.isValidatorUnit unit).isEmpty = false :=
    List.isEmpty_eq_false_iff.mpr tried
  exact ⟨failures, each, by simp [orderedChoice, choose, nonempty, none, Except.map]⟩

theorem noMatch_single (ts : Typeset) (unit : List Rule) (m : Mismatch) :
    noMatch v ts q [unit] [m] = m.rewrap v ts [] :=
  rfl

theorem noMatch_several (ts : Typeset) {units : List (List Rule)} (several : 2 ≤ units.length)
    (failures : List Mismatch) :
    noMatch v ts q units failures =
      { value := v, typeset := ts, path := [], mismatch := ts.fullyQualified (some q) } := by
  rcases units with _ | ⟨first, _ | ⟨second, rest⟩⟩
  · simp at several
  · simp at several
  · rfl

end Refused

end Check

namespace Engine

variable (e : Engine) {v : Value} {ctx : Context}

theorem checkWithType_alternative {o : GrammarOptions} {unit : List Rule}
    (valid : ctx.validate = .ok ()) (alt : Rule.Alternative o unit) (q : Option Qualifier) :
    e.checkWithType v (.list unit) ctx q = Check.matchType e e.checkIn v (.list unit) ctx q := by
  have verified : (Typeset.list unit).verify {} = .ok () := by
    simp [Typeset.verify, alt.validate_list, Except.mapError]
  simp only [checkWithType, valid, verified]
  exact (Check.matchType_follows (.refl e v ctx)
    (Check.recurFollows_of_agreeBelow (e.nested_agreeBelow v) ctx)).eq fun _ stop => stop

/-- What a well-formed list reports when none of its alternatives accepts the value.  With one
alternative and nothing after it, the report is that alternative's own failure, moved to the
list: its path, mismatch and root cause are kept.  With one alternative followed by a custom
validator, and with several alternatives, the report is a failure against the whole list, with
an empty path, the list's fully-qualified form as mismatch and no root cause. -/
theorem checkWithList_refusedReport (v : Value) (rules : List Rule) (ctx : Context)
    (override : Option Qualifier) (valid : ctx.validate = .ok ())
    (wellFormed : Typeset.validate {} (.list rules) = .ok ()) :
    let q := override.getD (Typeset.list rules).qualifier
    let generic : Mismatch :=
      { value := v, typeset := .list rules, path := [],
        mismatch := (Typeset.list rules).fullyQualified (some q) }
    (∀ unit m, Rule.alternatives rules = [unit] → (Typeset.list rules).trailingValidator? = none →
      e.checkWithType v (.list unit) ctx (some q) = .ok (.failure m) →
      e.checkWithList v (.list rules) ctx override =
        .ok (.failure (m.rewrap v (.list rules) []))) ∧
    (∀ unit name m, Rule.alternatives rules = [unit] →
      (Typeset.list rules).trailingValidator? = some name →
      e.checkWithType v (.list unit) ctx (some q) = .ok (.failure m) →
      e.checkWithList v (.list rules) ctx override = .ok (.failure generic)) ∧
    (2 ≤ (Rule.alternatives rules).length →
      (∀ unit ∈ Rule.alternatives rules, ∃ m,
        e.checkWithType v (.list unit) ctx (some q) = .ok (.failure m)) →
      e.checkWithList v (.list rules) ctx override = .ok (.failure generic)) := by
  intro q generic
  have verified : (Typeset.list rules).verify {} = .ok () := by
    simp [Typeset.verify, wellFormed, Except.mapError]
  have asChoice : e.checkWithList v (.list rules) ctx override =
      Check.orderedChoice e e.checkIn v (.list rules) ctx q (Rule.units rules .exclude).1 := by
    rw [e.checkWithList_eq_matchAlternatives valid verified]
    exact Check.matchAlternatives_eq_orderedChoice valid wellFormed override
  have unitsEq := Rule.units_eq_alternatives wellFormed
  have refusedInside : ∀ unit ∈ Rule.alternatives rules, ∀ m,
      e.checkWithType v (.list unit) ctx (some q) = .ok (.failure m) →
      Check.matchType e e.checkIn v (.list unit) ctx (some q) = .ok (.failure m) := by
    intro unit member m refused
    rwa [← e.checkWithType_alternative valid (Rule.alternative_of_mem_alternatives wellFormed member)]
  refine ⟨?single, ?validated, ?several⟩
  case single =>
    intro unit m alone noValidator refused
    have inside := refusedInside unit (by simp [alone]) m refused
    have unitsOne : (Rule.units rules .exclude).1 = [unit] := by
      simpa [Rule.validatorUnits, noValidator, alone] using unitsEq
    have notValidator : Rule.isValidatorUnit unit = false :=
      (Rule.alternative_of_mem_alternatives wellFormed (by simp [alone])).isValidatorUnit_eq_false
    rw [asChoice, unitsOne]
    simp [Check.orderedChoice, Check.choose, notValidator, Check.firstMatch, inside,
      Check.noMatch, Check.loneFailure, Except.map, Except.mapError]
  case validated =>
    intro unit name m alone validator refused
    have inside := refusedInside unit (by simp [alone]) m refused
    have unitsTwo : (Rule.units rules .exclude).1 = [unit, [.form (.validator name)]] := by
      simpa [Rule.validatorUnits, validator, alone] using unitsEq
    have notValidator : Rule.isValidatorUnit unit = false :=
      (Rule.alternative_of_mem_alternatives wellFormed (by simp [alone])).isValidatorUnit_eq_false
    have validatorUnit : Rule.isValidatorUnit [.form (.validator name)] = true := rfl
    rw [asChoice, unitsTwo]
    simp [Check.orderedChoice, Check.choose, notValidator, validatorUnit, Check.firstMatch,
      inside, Check.noMatch, Check.loneFailure, Except.map, Except.mapError, generic]
  case several =>
    intro several refused
    have tried : ((Rule.units rules .exclude).1.filter
        fun unit => !Rule.isValidatorUnit unit) ≠ [] := by
      intro none
      have noAlternatives : Rule.alternatives rules = [] := none
      rw [noAlternatives] at several
      simp at several
    have refusedAll : ∀ unit ∈ (Rule.units rules .exclude).1.filter
        (fun unit => !Rule.isValidatorUnit unit),
        ∃ m, Check.matchType e e.checkIn v (.list unit) ctx (some q) = .ok (.failure m) := by
      intro unit member
      obtain ⟨m, refusedAlone⟩ := refused unit member
      exact ⟨m, refusedInside unit member m refusedAlone⟩
    obtain ⟨failures, _, reported⟩ := Check.orderedChoice_refused (.list rules) tried refusedAll
    have unitsSeveral : 2 ≤ (Rule.units rules .exclude).1.length := by
      rw [unitsEq, List.length_append]
      omega
    rw [asChoice, reported, Check.noMatch_several _ unitsSeveral]

/-- `true` against `["+", "string", "finite"]`: neither alternative accepts it, and the list
reports a failure against itself. -/
theorem checkWithList_refusedReport_trueAgainstStringOrFinite :
    (Context.root (.bool true)).validate = .ok () ∧
      Typeset.validate {}
          (.list [.qualifier .expected, .form (.type .string), .form (.type .finite)]) = .ok () ∧
      (standard fun _ _ => .ok true).checkWithList (.bool true)
          (.list [.qualifier .expected, .form (.type .string), .form (.type .finite)])
          (Context.root (.bool true)) none =
        .ok (.failure ⟨.bool true,
          .list [.qualifier .expected, .form (.type .string), .form (.type .finite)], [],
          (Typeset.list [.qualifier .expected, .form (.type .string),
            .form (.type .finite)]).fullyQualified (some .expected), none⟩) := by
  have alternativesEq : Rule.alternatives
      [.qualifier .expected, .form (.type .string), .form (.type .finite)] =
        [[.form (.type .string)], [.form (.type .finite)]] := rfl
  refine ⟨rfl, rfl, (checkWithList_refusedReport _ _ _ _ none rfl rfl).2.2
    (by rw [alternativesEq]; decide) ?_⟩
  intro unit member
  rw [alternativesEq, List.mem_cons, List.mem_singleton] at member
  rcases member with rfl | rfl
  · exact ⟨_, rfl⟩
  · exact ⟨_, rfl⟩

/-- `["array", {"$": "string"}, V]` with a custom validator `V`, checked against `[1]`: the one
alternative fails at element `0` against `string`, but the list reports a failure against
itself with an empty path. -/
theorem checkWithList_validatorHidesChildPath :
    ∃ m m', (standard fun _ _ => .ok true).checkWithType (.array [.number 1])
        (.list [.form (.type .array), .args [("$", .typeset (.type .string))]])
        (Context.root (.array [.number 1])) (some .required) = .ok (.failure m) ∧
      (standard fun _ _ => .ok true).checkWithList (.array [.number 1])
          (.list [.form (.type .array), .args [("$", .typeset (.type .string))],
            .form (.validator "true")])
          (Context.root (.array [.number 1])) none = .ok (.failure m') ∧
      m.path = ["0"] ∧ m'.path = [] :=
  ⟨_, _, rfl, rfl, rfl, rfl⟩

end Engine

end Conformance
