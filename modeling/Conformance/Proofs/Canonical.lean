import Conformance.Proofs.Language

/-!
# The fully-qualified form is canonical

`Typeset.fullyQualify` checks a typeset against the shallow grammar and rewrites it into a
list that starts with one qualifier and names every type: a shape becomes `object` with the
shape as its `$` argument, a nested list `array` with the list as its `$` argument, and a
custom validator with no type before it gets `any`.  A qualifier given by the caller replaces
the typeset's own.

Main statement: `fullyQualify_canonical`.  The rewrite fails exactly on typesets outside the
shallow grammar, with the grammar's reason.  Otherwise its result is in the fully-qualified
language and carries the qualifier asked for, or else the typeset's own.  Every typeset of the
fully-qualified language is its own fully-qualified form, so rewriting twice changes nothing.
The rewrite is read through the languages of `Proofs/Language`: the shallow language maps into
the fully-qualified one (`inLanguage_fullyQualified`), on which the rewrite is the identity
(`fullyQualified_none_of_inLanguage`).
-/

namespace Conformance

namespace Typeset

/-- The options of the shallow fully-qualified grammar. -/
abbrev qualifiedOptions : GrammarOptions := { fullyQualified := true }

/-! ### The shallow language maps into the fully-qualified one -/

theorem UnitInLanguage.qualifyRest_append {o : GrammarOptions} {u : List Rule}
    (unit : UnitInLanguage o u) (typed : Bool) (rest : List Rule) :
    qualifyRest typed (u ++ rest) = qualifyRest true u ++ qualifyRest true rest := by
  cases unit <;> rfl

theorem LeadInLanguage.qualifyRest_append {o : GrammarOptions} {lead : List Rule}
    (first : LeadInLanguage o lead) (typed : Bool) (rest : List Rule) :
    qualifyRest typed (lead ++ rest) = qualifyRest true lead ++ qualifyRest true rest := by
  cases first with
  | unit unit => exact unit.qualifyRest_append typed rest
  | shape _ _ => rfl

theorem UnitInLanguage.qualified {o o' : GrammarOptions} {u : List Rule}
    (unit : UnitInLanguage o u) (nested : o'.deep = true → o' = o) :
    UnitInLanguage o' (qualifyRest true u) := by
  cases unit with
  | type t => exact .type t
  | typeArgs t takes sound =>
      refine .typeArgs t takes fun deep => ?_
      obtain rfl := nested deep
      exact sound deep
  | list _ sound =>
      refine .typeArgs .array rfl fun deep => ?_
      obtain rfl := nested deep
      refine .mk (fun objectType => by cases objectType) fun _ key named a found => ?_
      simp only [typesetArgNames, List.mem_singleton] at named
      subst named
      simp only [Args.get?, List.find?_cons, beq_self_eq_true, Option.map_some,
        Option.some.injEq] at found
      subst found
      exact .typeset (sound deep)

theorem LeadInLanguage.qualified {o o' : GrammarOptions} {lead : List Rule}
    (first : LeadInLanguage o lead) (nested : o'.deep = true → o' = o) :
    UnitInLanguage o' (qualifyRest true lead) := by
  cases first with
  | unit unit => exact unit.qualified nested
  | shape _ sound =>
      refine .typeArgs .object rfl fun deep => ?_
      obtain rfl := nested deep
      refine .mk (fun _ a found => ?_) fun notObject => by cases notObject
      simp only [Args.get?, List.find?_cons, beq_self_eq_true, Option.map_some,
        Option.some.injEq] at found
      subst found
      exact .shape (sound deep)

theorem TailInLanguage.qualified {o o' : GrammarOptions} (nested : o'.deep = true → o' = o) :
    ∀ {rs : List Rule}, TailInLanguage o rs → TailInLanguage o' (qualifyRest true rs)
  | _, .nil => .nil
  | _, .validator name => .validator name
  | _, .cons unit rest => by
      rw [unit.qualifyRest_append]
      exact .cons (unit.qualified nested) (TailInLanguage.qualified nested rest)

theorem BodyInLanguage.qualified {o o' : GrammarOptions} {body : List Rule}
    (read : BodyInLanguage o body) (nested : o'.deep = true → o' = o) :
    BodyInLanguage o' (qualifyRest false body) := by
  cases read with
  | lone name _ => exact .lead (.unit (.type .any)) (.validator name)
  | lead first rest =>
      rw [first.qualifyRest_append]
      exact .lead (.unit (first.qualified nested)) (TailInLanguage.qualified nested rest)

theorem InLanguage.fullyQualified {o o' : GrammarOptions} {ts : Typeset}
    (wellFormed : InLanguage o ts) (q : Option Qualifier) (nested : o'.deep = true → o' = o) :
    InLanguage o' (ts.fullyQualified q) := by
  cases wellFormed with
  | type t _ => exact .qualified _ (.lead (.unit (.type t)) .nil)
  | validator name _ => exact .qualified _ (.lead (.unit (.type .any)) (.validator name))
  | shape plain sound =>
      exact .qualified _ (.lead (.unit ((LeadInLanguage.shape plain sound).qualified nested)) .nil)
  | list _ read =>
      obtain ⟨first, rest, rfl⟩ := read.head_form
      exact .qualified _ (read.qualified nested)
  | qualified own read => exact .qualified _ (read.qualified nested)

/-- The fully-qualified form of a typeset of the shallow language is in the fully-qualified
language. -/
theorem inLanguage_fullyQualified {ts : Typeset} (wellFormed : InLanguage {} ts)
    (q : Option Qualifier) : InLanguage qualifiedOptions (ts.fullyQualified q) :=
  wellFormed.fullyQualified q fun deep => nomatch deep

/-! ### The fully-qualified language is left as it is -/

theorem UnitInLanguage.qualifyRest_eq {u : List Rule} (unit : UnitInLanguage qualifiedOptions u) :
    qualifyRest true u = u := by
  cases unit with
  | type t => rfl
  | typeArgs t _ _ => rfl
  | list plain _ => cases plain

theorem UnitInLanguage.shallow {u : List Rule} (unit : UnitInLanguage qualifiedOptions u) :
    UnitInLanguage {} u := by
  cases unit with
  | type t => exact .type t
  | typeArgs t takes _ => exact .typeArgs t takes fun deep => nomatch deep
  | list plain _ => cases plain

theorem TailInLanguage.qualifyRest_eq :
    ∀ {rs : List Rule}, TailInLanguage qualifiedOptions rs → qualifyRest true rs = rs
  | _, .nil => rfl
  | _, .validator name => rfl
  | _, .cons unit rest => by
      rw [unit.qualifyRest_append, unit.qualifyRest_eq, rest.qualifyRest_eq]

theorem TailInLanguage.shallow :
    ∀ {rs : List Rule}, TailInLanguage qualifiedOptions rs → TailInLanguage {} rs
  | _, .nil => .nil
  | _, .validator name => .validator name
  | _, .cons unit rest => .cons unit.shallow rest.shallow

/-- A typeset of the fully-qualified language is a qualifier, then a type, then types with
their arguments and at most one custom validator; its fully-qualified form is itself. -/
theorem fullyQualified_none_of_inLanguage {u : Typeset} (qualified : InLanguage qualifiedOptions u) :
    InLanguage {} u ∧ u.fullyQualified none = u := by
  cases qualified with
  | type _ plain => cases plain
  | validator _ plain => cases plain
  | shape plain _ => cases plain
  | list plain _ => cases plain
  | qualified q read =>
      cases read with
      | lone _ plain => cases plain
      | lead first rest =>
          cases first with
          | shape plain _ => cases plain
          | unit unit =>
              refine ⟨.qualified q (.lead (.unit unit.shallow) rest.shallow), ?_⟩
              obtain ⟨ts, tail, unitEq⟩ := unit.head_form
              simp only [fullyQualified, Option.getD_none]
              rw [unit.qualifyRest_append, unit.qualifyRest_eq, rest.qualifyRest_eq]

/-! ### The rewrite -/

theorem fullyQualify_eq_error_iff (ts : Typeset) (q : Option Qualifier) (reason : GrammarError) :
    fullyQualify ts q = .error (.invalid ts.print reason) ↔ validate {} ts = .error reason := by
  cases checked : validate {} ts <;> simp [fullyQualify, verify, checked, Except.mapError]

theorem fullyQualify_eq_ok {ts : Typeset} (wellFormed : validate {} ts = .ok ())
    (q : Option Qualifier) : fullyQualify ts q = .ok (ts.fullyQualified q) := by
  simp [fullyQualify, verify, wellFormed, Except.mapError]

theorem qualifier_fullyQualified {ts : Typeset} (wellFormed : InLanguage {} ts)
    (q : Option Qualifier) : (ts.fullyQualified q).qualifier = q.getD ts.qualifier := by
  cases wellFormed with
  | list _ read =>
      obtain ⟨first, rest, rfl⟩ := read.head_form
      rfl
  | qualified own _ => rfl
  | _ => rfl

theorem fullyQualify_of_inLanguage {u : Typeset} (qualified : InLanguage qualifiedOptions u) :
    fullyQualify u none = .ok u := by
  obtain ⟨shallow, same⟩ := fullyQualified_none_of_inLanguage qualified
  rw [fullyQualify_eq_ok (validate_of_inLanguage shallow), same]

/-- The fully-qualified form is canonical.  The rewrite fails exactly on typesets outside the
shallow grammar, with the grammar's reason.  Otherwise its result passes the fully-qualified
grammar, carries the qualifier asked for (or else the typeset's own), and is its own
fully-qualified form, as is every typeset that passes the fully-qualified grammar. -/
theorem fullyQualify_canonical (ts : Typeset) (q : Option Qualifier) :
    (∀ reason, fullyQualify ts q = .error (.invalid ts.print reason) ↔
        validate {} ts = .error reason) ∧
      (validate {} ts = .ok () → ∃ r, fullyQualify ts q = .ok r ∧
        validate qualifiedOptions r = .ok () ∧ r.qualifier = q.getD ts.qualifier ∧
        fullyQualify r none = .ok r) ∧
      ∀ u, validate qualifiedOptions u = .ok () → fullyQualify u none = .ok u := by
  refine ⟨fullyQualify_eq_error_iff ts q, fun wellFormed => ?_, fun u qualified =>
    fullyQualify_of_inLanguage (inLanguage_of_validate qualified)⟩
  have shallow : InLanguage {} ts := inLanguage_of_validate wellFormed
  have normal : InLanguage qualifiedOptions (ts.fullyQualified q) :=
    inLanguage_fullyQualified shallow q
  exact ⟨ts.fullyQualified q, fullyQualify_eq_ok wellFormed q, validate_of_inLanguage normal,
    qualifier_fullyQualified shallow q, fullyQualify_of_inLanguage normal⟩

end Typeset

end Conformance
