import Conformance.Proofs.SingleType
import Conformance.Proofs.Location

/-!
# The two written forms of a type

A validator reports a mismatch with two typesets that `typesetOf` writes from the type it
checked, its qualifier and its arguments: the shortest form, which leaves the default qualifier
out and is the bare type when nothing else is asked, and the fully-qualified form, which always
starts with the qualifier.

Main statement: `typesetOf_forms_agree`.  Arguments for a type that takes none are refused in
either form.  Otherwise the fully-qualified form is the qualifier, the type and its arguments,
and it is the normal form of the shortest one; both state the same qualifier, and the shortest
form is the bare type exactly for the default qualifier without arguments.  So every mismatch a
validator reports names a typeset whose normal form is the mismatch it reports
(`Check.mismatchAt_fullyQualify`).
-/

namespace Conformance

variable {t : TypeName} {q : Option Qualifier} {args : Option Args}

theorem typesetOf_eq_argsNotAccepted_iff (a : Args) (fullyQualified : Bool) :
    typesetOf t q (some a) fullyQualified = .error (.argsNotAccepted t) ↔ t.hasArgs = false := by
  unfold typesetOf
  cases takes : t.hasArgs with
  | false => simp
  | true =>
      simp only [Option.isSome_some, Bool.not_true, Bool.and_false, Bool.false_eq_true, if_false]
      split <;> simp

theorem takes_of_typesetOf_eq_ok {fullyQualified : Bool} {ts : Typeset}
    (written : typesetOf t q args fullyQualified = .ok ts) : ∀ a, args = some a → t.hasArgs = true := by
  intro a given
  subst given
  cases takes : t.hasArgs with
  | true => rfl
  | false => simp [typesetOf, takes] at written

theorem typesetOf_fullyQualified_eq (takes : ∀ a, args = some a → t.hasArgs = true) :
    typesetOf t q args true =
      .ok (.list (.qualifier (q.getD .required) :: Rule.typedUnit t args)) := by
  cases args with
  | none => simp [typesetOf, Rule.typedUnit, Qualifier.default]
  | some a => simp [typesetOf, takes a rfl, Rule.typedUnit, Qualifier.default]

namespace Typeset

theorem fullyQualify_type (t : TypeName) :
    fullyQualify (.type t) none = .ok (.list [.qualifier .required, .form (.type t)]) :=
  rfl

theorem fullyQualify_qualifiedTypedUnit (takes : ∀ a, args = some a → t.hasArgs = true)
    (q : Qualifier) :
    fullyQualify (.list (.qualifier q :: Rule.typedUnit t args)) none =
      .ok (.list (.qualifier q :: Rule.typedUnit t args)) := by
  have wellFormed : validate {} (.list (.qualifier q :: Rule.typedUnit t args)) = .ok () := by
    rw [← Rule.fullyQualified_typedUnit]
    exact validate_fullyQualified (Rule.typedUnit_alternative takes).validate_list (some q)
  rw [fullyQualify_eq_ok wellFormed]
  cases args <;> rfl

theorem fullyQualify_typedUnit (takes : ∀ a, args = some a → t.hasArgs = true) :
    fullyQualify (.list (Rule.typedUnit t args)) none =
      .ok (.list (.qualifier .required :: Rule.typedUnit t args)) := by
  rw [fullyQualify_eq_ok (Rule.typedUnit_alternative takes).validate_list]
  cases args <;> rfl

end Typeset

theorem typesetOf_shortest (takes : ∀ a, args = some a → t.hasArgs = true) :
    ∃ short, typesetOf t q args false = .ok short ∧
      short.fullyQualify none = .ok (.list (.qualifier (q.getD .required) :: Rule.typedUnit t args)) ∧
      short.qualifier = q.getD .required ∧
      (short = .type t ↔ q.getD .required = .required ∧ args = none) := by
  by_cases isDefault : q.getD .required = .required
  · cases args with
    | none =>
        refine ⟨.type t, by simp [typesetOf, Qualifier.default, isDefault], ?_, isDefault.symm,
          by simp [isDefault]⟩
        rw [isDefault]
        exact Typeset.fullyQualify_type t
    | some a =>
        refine ⟨.list (Rule.typedUnit t (some a)), ?_, ?_, isDefault.symm, by simp [Rule.typedUnit]⟩
        · simp [typesetOf, takes a rfl, Qualifier.default, isDefault, Rule.typedUnit]
        · rw [isDefault]
          exact Typeset.fullyQualify_typedUnit takes
  · -- another qualifier is written before the type
    refine ⟨.list (.qualifier (q.getD .required) :: Rule.typedUnit t args), ?_,
      Typeset.fullyQualify_qualifiedTypedUnit takes _, rfl, by simp [isDefault]⟩
    cases args with
    | none => simp [typesetOf, Qualifier.default, isDefault, Rule.typedUnit]
    | some a => simp [typesetOf, takes a rfl, Qualifier.default, isDefault, Rule.typedUnit]

namespace Check

/-- A mismatch report names a typeset whose normal form is the mismatch it reports. -/
theorem mismatchAt_fullyQualify {v : Value} {t : TypeName} {q : Qualifier} {args : Option Args}
    {path : List String} {m : Mismatch} (reported : mismatchAt v t q args path = .ok m) :
    m.typeset.fullyQualify none = .ok m.mismatch := by
  obtain ⟨ts, fq, shortest, full, rfl⟩ := mismatchAt_eq_ok.mp reported
  have takes := takes_of_typesetOf_eq_ok shortest
  obtain ⟨short, written, normal, -, -⟩ := typesetOf_shortest (q := some q) takes
  rw [shortest, Except.ok.injEq] at written
  rw [typesetOf_fullyQualified_eq takes, Except.ok.injEq] at full
  subst written full
  exact normal

end Check

/-- The shortest and the fully-qualified forms of a type agree.  Arguments for a type that takes
none are refused in either form.  Otherwise, with `q'` the qualifier given or else `required`,
the fully-qualified form is `[q', t, args?]` and is the normal form of the shortest form; both
state `q'`; and the shortest form is the bare type exactly when `q'` is `required` and no
arguments are given.  So every mismatch report normalizes its typeset to its mismatch. -/
theorem typesetOf_forms_agree (t : TypeName) (q : Option Qualifier) :
    (∀ a fullyQualified, typesetOf t q (some a) fullyQualified = .error (.argsNotAccepted t) ↔
      t.hasArgs = false) ∧
    (∀ args, (∀ a, args = some a → t.hasArgs = true) →
      ∃ short, typesetOf t q args false = .ok short ∧
        typesetOf t q args true = .ok (.list (.qualifier (q.getD .required) :: Rule.typedUnit t args)) ∧
        short.fullyQualify none = typesetOf t q args true ∧
        short.qualifier = q.getD .required ∧
        (Typeset.list (.qualifier (q.getD .required) :: Rule.typedUnit t args)).qualifier =
          q.getD .required ∧
        (short = .type t ↔ q.getD .required = .required ∧ args = none)) ∧
    ∀ (q' : Qualifier) args (v : Value) path (m : Mismatch),
      Check.mismatchAt v t q' args path = .ok m → m.typeset.fullyQualify none = .ok m.mismatch := by
  refine ⟨typesetOf_eq_argsNotAccepted_iff, fun args takes => ?_,
    fun _ _ _ _ _ reported => Check.mismatchAt_fullyQualify reported⟩
  obtain ⟨short, written, normal, qualified, bare⟩ := typesetOf_shortest (q := q) takes
  rw [typesetOf_fullyQualified_eq takes]
  exact ⟨short, written, rfl, normal, qualified, rfl, bare⟩

end Conformance
