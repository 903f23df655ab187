import Conformance.Proofs.Raised
import Conformance.Proofs.Refusal

/-!
# Checking a typeset as one type

`Engine.checkWithType` checks a value against a typeset that must describe one type: a type, a
shape, or a list that is one type with its arguments.  The engine tells this from the
fully-qualified form of the typeset: it cuts the first unit from it, refuses the typeset when
the cut does not reach the end, and otherwise reads the unit as a type, with its arguments if
it has them.  A custom validator is a unit of its own, and a list that is only a validator
stands for `any` and the validator, so both count as more than one type.

Main statement: `Engine.checkWithType_singleType`.  For a well-formed typeset in a consistent
context, `checkWithType` refuses the typeset with `NotSingleType` exactly when it is a bare
custom validator or its fully-qualified form has more than one unit (`Typeset.unitCount`).
Otherwise it answers as the general check of the fully-qualified form, except that a failure
is reported at the typeset itself.  A check never raises `NotSingleType` on its own
(`Engine.checkIn_ownErrors`), so the refusal is told apart from any answer of the general
check.  `checkWithShape` is `checkWithType` of the shape.
-/

namespace Conformance

namespace Verdict

/-- The verdict with its failure reported at typeset `ts`. -/
def retype (ts : Typeset) : Verdict → Verdict
  | .success mvv => .success mvv
  | .failure m => .failure { m with typeset := ts }

end Verdict

namespace Typeset

/-- How many units the rules of a list typeset are cut into; none for another form. -/
def unitCount (ts : Typeset) : Nat :=
  (Rule.units (ts.rules?.getD []) .exclude).1.length

theorem fullyQualified_getD_qualifier (ts : Typeset) (q : Option Qualifier) :
    ts.fullyQualified (some (q.getD ts.qualifier)) = ts.fullyQualified q := by
  cases q with
  | some q => rfl
  | none =>
      cases ts with
      | list rules => exact (fullyQualified_list_none rules).symm
      | _ => rfl

end Typeset

namespace Rule

/-- The unit of a list that is type `t`, followed by its arguments when it has them. -/
def typedUnit (t : TypeName) (args : Option Args) : List Rule :=
  .form (.type t) :: args.toList.map .args

theorem checkedType_typedUnit (t : TypeName) (args : Option Args) :
    checkedType (typedUnit t args) = (t, args) := by
  cases args <;> rfl

theorem typedUnit_alternative {t : TypeName} {args : Option Args}
    (takes : ∀ a, args = some a → t.hasArgs = true) : Alternative {} (typedUnit t args) := by
  cases args with
  | none => exact .type t
  | some a => exact .typeArgs t a (takes a rfl) fun deep => absurd deep Bool.false_ne_true

theorem Alternative.qualifyRest_eq {o : GrammarOptions} {unit : List Rule}
    (alt : Alternative o unit) :
    Typeset.qualifyRest true unit = typedUnit (checkedType unit).1 (checkedType unit).2 := by
  cases alt <;> rfl

theorem Alternative.checkedType_takes {o : GrammarOptions} {unit : List Rule}
    (alt : Alternative o unit) : ∀ a, (checkedType unit).2 = some a →
      (checkedType unit).1.hasArgs = true := by
  cases alt with
  | type t => intro a given; cases given
  | typeArgs t entries takes _ => exact fun _ _ => takes
  | shape props _ => exact fun _ _ => rfl
  | list inner _ => exact fun _ _ => rfl

theorem Splits.single {o : GrammarOptions} {s unit : List Rule} (split : Splits o s [unit]) :
    s = unit ∧ (Alternative o unit ∨ ∃ name, unit = [.form (.validator name)]) := by
  cases split with
  | validator name => exact ⟨rfl, .inr ⟨name, rfl⟩⟩
  | cons alt restSplit => exact ⟨by rw [restSplit.eq_nil_of_units_nil, List.append_nil], .inl alt⟩

section Typed

variable {t : TypeName} {args : Option Args}

theorem fullyQualified_typedUnit (q : Qualifier) :
    (Typeset.list (typedUnit t args)).fullyQualified (some q) =
      .list (.qualifier q :: typedUnit t args) := by
  cases args <;> rfl

theorem units_typedUnit (takes : ∀ a, args = some a → t.hasArgs = true) (q : Qualifier) :
    (units (.qualifier q :: typedUnit t args) .exclude).1 = [typedUnit t args] := by
  have split : Splits {} (typedUnit t args) [typedUnit t args] := by
    simpa using Splits.cons (typedUnit_alternative takes) .nil
  rw [units_of_splits (List.singleton_append).symm (.inr ⟨q, rfl⟩) split (List.cons_ne_nil _ _)]

end Typed

end Rule

namespace Check

section OneLevel

variable {e : Engine} {recur : Recur} {v : Value} {ctx : Context}

theorem runValidator_retype {ts ts' : Typeset} {t : TypeName} {q : Qualifier}
    {args : Option Args} :
    (runValidator e recur v ts t q args ctx).map (Verdict.retype ts') =
      runValidator e recur v ts' t q args ctx := by
  unfold runValidator
  split
  · rfl
  · cases validateType recur t v q args ctx with
    | error err => rfl
    | ok verdict => cases verdict <;> rfl

theorem matchType_list_typed {rules : List Rule} (q : Option Qualifier) {t : TypeName}
    {args : Option Args} (takes : ∀ a, args = some a → t.hasArgs = true)
    (qualified : (Typeset.list rules).fullyQualified q =
      .list (.qualifier (q.getD (Typeset.list rules).qualifier) :: Rule.typedUnit t args)) :
    matchType e recur v (.list rules) ctx q =
      runValidator e recur v (.list rules) t (q.getD (Typeset.list rules).qualifier) args ctx := by
  rw [← Typeset.fullyQualified_getD_qualifier] at qualified
  cases args with
  | none =>
      simp [matchType, qualified, Rule.typedUnit, Typeset.rules?, Rule.nextUnit, Rule.isQualifier]
  | some a =>
      simp [matchType, qualified, Rule.typedUnit, Typeset.rules?, Rule.nextUnit, Rule.isQualifier,
        takes a rfl]

theorem matchType_list_several {rules : List Rule} (q : Option Qualifier)
    (inside : (Rule.nextUnit (((Typeset.list rules).fullyQualified q).rules?.getD []) 0
      .exclude).2 < (((Typeset.list rules).fullyQualified q).rules?.getD []).length) :
    matchType e recur v (.list rules) ctx q = .error (.notSingleType (Typeset.list rules).print) := by
  rw [← Typeset.fullyQualified_getD_qualifier] at inside
  simp only [matchType]
  rcases cut : Rule.nextUnit (((Typeset.list rules).fullyQualified
    (some (q.getD (Typeset.list rules).qualifier))).rules?.getD []) 0 .exclude with ⟨unit, cursor⟩
  rw [cut] at inside
  simp [inside]

theorem matchType_typed {ts : Typeset} (q : Option Qualifier) {t : TypeName} {args : Option Args}
    (takes : ∀ a, args = some a → t.hasArgs = true)
    (qualified : ts.fullyQualified q = .list (.qualifier (q.getD ts.qualifier) :: Rule.typedUnit t args)) :
    matchType e recur v ts ctx q = runValidator e recur v ts t (q.getD ts.qualifier) args ctx := by
  cases ts with
  | type t' =>
      obtain ⟨rfl, rfl⟩ : t' = t ∧ args = none := by
        cases args <;> simp_all [Typeset.fullyQualified, Rule.typedUnit]
      rfl
  | shape props =>
      obtain ⟨rfl, rfl⟩ : t = .object ∧ args = some [("$", .typeset (.shape props))] := by
        cases args <;> simp_all [Typeset.fullyQualified, Rule.typedUnit]
      rfl
  | validator name => cases args <;> simp [Typeset.fullyQualified, Rule.typedUnit] at qualified
  | list rules => exact matchType_list_typed q takes qualified

end OneLevel

end Check

namespace Typeset

theorem unitCount_typedUnit {t : TypeName} {args : Option Args}
    (takes : ∀ a, args = some a → t.hasArgs = true) (q : Qualifier) :
    (Typeset.list (.qualifier q :: Rule.typedUnit t args)).unitCount = 1 := by
  simp [unitCount, rules?, Rule.units_typedUnit takes q]

theorem list_typed_or_several {rules : List Rule}
    (wellFormed : validate {} (.list rules) = .ok ()) (q : Option Qualifier) :
    (∃ t args, (∀ a, args = some a → t.hasArgs = true) ∧
      (Typeset.list rules).fullyQualified q =
        .list (.qualifier (q.getD (Typeset.list rules).qualifier) :: Rule.typedUnit t args)) ∨
    1 < ((Typeset.list rules).fullyQualified q).unitCount ∧
      ∀ e recur v ctx, Check.matchType e recur v (.list rules) ctx q =
        .error (.notSingleType (Typeset.list rules).print) := by
  obtain ⟨lead, s, units, rfl, leading, split, nonempty⟩ := Rule.splits_of_validate wellFormed
  have sNonempty : s ≠ [] := fun sNil => nonempty (split.units_eq_nil sNil)
  have fqEq := Rule.fullyQualified_split leading (split.head_form.resolve_left sNonempty)
    (q.getD (Typeset.list (lead ++ s)).qualifier)
  rw [fullyQualified_getD_qualifier] at fqEq
  generalize q.getD (Typeset.list (lead ++ s)).qualifier = qq at fqEq ⊢
  have refusedWhen : (Rule.nextUnit (.qualifier qq :: qualifyRest false s) 0 .exclude).2 <
      (qualifyRest false s).length + 1 → ∀ e recur v ctx, Check.matchType e recur v
        (.list (lead ++ s)) ctx q = .error (.notSingleType (Typeset.list (lead ++ s)).print) := by
    intro inside e recur v ctx
    refine Check.matchType_list_several q ?_
    rw [fqEq]
    exact inside
  by_cases lone : ∃ name, s = [.form (.validator name)]
  · -- a lone validator stands for `any` and the validator: two units
    obtain ⟨name, rfl⟩ := lone
    have counted : (Typeset.list [.qualifier qq, .form (.type .any), .form (.validator name)]).unitCount
        = 2 := rfl
    refine .inr ⟨by rw [fqEq]; simp [qualifyRest, counted], refusedWhen (by simp [qualifyRest, Rule.nextUnit, Rule.isQualifier])⟩
  have notLone : ∀ name, s ≠ [.form (.validator name)] := fun name sEq => lone ⟨name, sEq⟩
  rw [split.qualifyRest_false notLone] at fqEq refusedWhen
  have qualifiedUnits := Rule.units_of_splits (List.singleton_append).symm (.inr ⟨qq, rfl⟩)
    split.qualifyRest (by simpa using nonempty)
  obtain ⟨unit, more, rfl⟩ := List.exists_cons_of_ne_nil nonempty
  rcases more with _ | ⟨next, more⟩
  · -- one unit: an alternative, since a lone validator was set aside
    obtain ⟨sEq, alt | ⟨name, unitEq⟩⟩ := split.single
    · subst sEq
      exact .inl ⟨_, _, alt.checkedType_takes, by rw [fqEq, alt.qualifyRest_eq]⟩
    · exact absurd (sEq.trans unitEq) (notLone name)
  · -- two units or more: the first unit stops before the end of the rules
    have startsForm := split.qualifyRest.head_form.resolve_left
      (split.qualifyRest_ne_nil sNonempty)
    obtain ⟨first, within⟩ := split.qualifyRest.first
      (show (Rule.qualifier qq :: qualifyRest true s).drop 1 = qualifyRest true s from rfl)
    have stops : (Rule.nextUnit (.qualifier qq :: qualifyRest true s) 0 .exclude).2 <
        (qualifyRest true s).length + 1 := by
      rw [← List.singleton_append, Rule.nextUnit_lead (.inr ⟨qq, rfl⟩) startsForm]
      simp only [List.length_singleton, List.singleton_append, first]
      have beyond : ¬(qualifyRest true s).length ≤ (qualifyRest true unit).length := by
        rw [← within]
        simp
      omega
    refine .inr ⟨?_, refusedWhen stops⟩
    rw [fqEq]
    simp [unitCount, rules?, qualifiedUnits]

theorem typed_or_several {ts : Typeset} (wellFormed : validate {} ts = .ok ())
    (q : Option Qualifier) :
    (∃ t args, (∀ a, args = some a → t.hasArgs = true) ∧
      ts.fullyQualified q = .list (.qualifier (q.getD ts.qualifier) :: Rule.typedUnit t args)) ∨
    ((∃ name, ts = .validator name) ∨ 1 < (ts.fullyQualified q).unitCount) ∧
      ∀ e recur v ctx, Check.matchType e recur v ts ctx q = .error (.notSingleType ts.print) := by
  cases ts with
  | type t => exact .inl ⟨t, none, (fun _ given => by cases given), rfl⟩
  | shape props => exact .inl ⟨.object, some [("$", .typeset (.shape props))], fun _ _ => rfl, rfl⟩
  | validator name => exact .inr ⟨.inl ⟨name, rfl⟩, fun _ _ _ _ => rfl⟩
  | list rules =>
      rcases list_typed_or_several wellFormed q with typed | ⟨counted, refused⟩
      · exact .inl typed
      · exact .inr ⟨.inr counted, refused⟩

end Typeset

namespace Engine

variable (e : Engine) {v : Value} {ctx : Context}

theorem checkIn_typedUnit (valid : ctx.validate = .ok ()) {q : Qualifier} {t : TypeName}
    {args : Option Args} (takes : ∀ a, args = some a → t.hasArgs = true) :
    e.checkIn v (.list (.qualifier q :: Rule.typedUnit t args)) ctx =
      Check.runValidator e (e.nested v) v (.list (.qualifier q :: Rule.typedUnit t args)) t q
        args ctx := by
  have alt := Rule.typedUnit_alternative takes
  have wellFormed : Typeset.validate {} (.list (.qualifier q :: Rule.typedUnit t args)) = .ok () := by
    rw [← Rule.fullyQualified_typedUnit]
    exact Typeset.validate_fullyQualified alt.validate_list (some q)
  have verified : (Typeset.list (.qualifier q :: Rule.typedUnit t args)).verify {} = .ok () := by
    simp [Typeset.verify, wellFormed, Except.mapError]
  have noValidator :
      (Typeset.list (.qualifier q :: Rule.typedUnit t args)).trailingValidator? = none := by
    cases args <;> rfl
  change Check.checkStep e (e.nested v) v _ ctx = _
  simp only [Check.checkStep, valid, verified]
  rw [Check.matchAlternatives_eq_orderedChoice valid wellFormed none, Rule.units_typedUnit takes,
    Check.orderedChoice_single_eq alt noValidator, Rule.checkedType_typedUnit]
  rfl

theorem checkWithShape_eq (valid : ctx.validate = .ok ()) (props : List (String × Option Typeset))
    (q : Option Qualifier) :
    e.checkWithShape v props ctx q = e.checkWithType v (.shape props) ctx q := by
  have verified : (Typeset.shape props).verify {} = .ok () := by
    simp [Typeset.verify, Typeset.validate, Except.mapError]
  simp only [checkWithShape, checkWithType, valid, verified]

/-- `checkWithType` refuses a well-formed typeset as more than one type exactly when it is a
bare custom validator or its fully-qualified form (what `fullyQualify` gives) has more than one
unit, and otherwise gives the verdict of the general check of that form, reported at the
typeset. -/
theorem checkWithType_singleType (v : Value) (t : Typeset) (ctx : Context) (q : Option Qualifier)
    (valid : ctx.validate = .ok ()) (wellFormed : Typeset.validate {} t = .ok ()) :
    let several := (∃ name, t = .validator name) ∨ 1 < (t.fullyQualified q).unitCount
    t.fullyQualify q = .ok (t.fullyQualified q) ∧
    ((∃ s, e.checkWithType v t ctx q = .error (.notSingleType s)) ↔ several) ∧
      (several → e.checkWithType v t ctx q = .error (.notSingleType t.print)) ∧
      (¬several →
        e.checkWithType v t ctx q = (e.checkIn v (t.fullyQualified q) ctx).map (Verdict.retype t)) ∧
      ∀ props, e.checkWithShape v props ctx q = e.checkWithType v (.shape props) ctx q := by
  intro several
  refine ⟨Typeset.fullyQualify_eq_ok wellFormed q, ?_⟩
  have verified : t.verify {} = .ok () := by
    simp [Typeset.verify, wellFormed, Except.mapError]
  have asMatch : e.checkWithType v t ctx q = Check.matchType e (e.nested v) v t ctx q := by
    simp only [checkWithType, valid, verified]
  rcases t.typed_or_several wellFormed q with ⟨tn, args, takes, qualified⟩ | ⟨isSeveral, refused⟩
  case inl =>
    have single : ¬several := by
      rintro (⟨name, rfl⟩ | counted)
      · cases args <;> simp [Typeset.fullyQualified, Rule.typedUnit] at qualified
      · rw [qualified, Typeset.unitCount_typedUnit takes] at counted
        omega
    have agrees : e.checkWithType v t ctx q =
        (e.checkIn v (t.fullyQualified q) ctx).map (Verdict.retype t) := by
      rw [asMatch, Check.matchType_typed q takes qualified, qualified, e.checkIn_typedUnit valid takes,
        Check.runValidator_retype]
    refine ⟨⟨?_, fun isSeveral => absurd isSeveral single⟩, fun isSeveral => absurd isSeveral single,
      fun _ => agrees, (e.checkWithShape_eq valid · q)⟩
    rintro ⟨s, refusal⟩
    rw [agrees] at refusal
    cases checked : e.checkIn v (t.fullyQualified q) ctx with
    | ok verdict =>
        rw [checked] at refusal
        cases refusal
    | error err =>
        rw [checked] at refusal
        cases refusal
        simpa [TypesetError.fromCheck] using e.checkIn_ownErrors v _ ctx _ checked
  case inr =>
    have refusal : e.checkWithType v t ctx q = .error (.notSingleType t.print) := by
      rw [asMatch]
      exact refused e _ v ctx
    exact ⟨⟨fun _ => isSeveral, fun _ => ⟨_, refusal⟩⟩, fun _ => refusal,
      fun notSeveral => absurd isSeveral notSeveral, (e.checkWithShape_eq valid · q)⟩

/-- `[string, finite]` is two alternatives, so checking `1` against it as one type is
refused. -/
theorem checkWithType_singleType_stringOrFinite :
    (Context.root (.number 1)).validate = .ok () ∧
      Typeset.validate {} (.list [.form (.type .string), .form (.type .finite)]) = .ok () ∧
      (standard fun _ _ => .ok true).checkWithType (.number 1)
          (.list [.form (.type .string), .form (.type .finite)]) (Context.root (.number 1)) none =
        .error (.notSingleType (Typeset.list [.form (.type .string), .form (.type .finite)]).print) :=
  ⟨rfl, rfl, (checkWithType_singleType _ _ _ _ none rfl rfl).2.2.1 (.inr (by decide))⟩

end Engine

end Conformance
