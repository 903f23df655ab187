import Conformance.Proofs.Descent
import Conformance.Proofs.Safety

/-!
# The context along a check

A check of `v₀` in the context `ctx₀` reaches `v₀` in `ctx₀` and then, from every value it
reaches, the children of that value, each in the context derived for it (`Check.Visits`).  A
derived context names the container as the parent and the child's key, and keeps the value the
check started from and the options; its parent is object-like, so it is consistent.

Main statement: `Engine.checkIn_threadsContext`.  At every depth a check goes on only at visited
values in their contexts, so each validator, built-in or custom, runs in one of them: the nested
checks of a visited value are all visited, and two sets of custom validators that answer alike
on the visited invocations give the same result.  Every visited context keeps the start value
and the options, is consistent when `ctx₀` is, and is `ctx₀` for `v₀` itself or else names the
container and the key the value was found under.
-/

namespace Conformance

namespace Check

/-- The values a check of `v₀` in `ctx₀` reaches, each with the context it is checked in. -/
inductive Visits (v₀ : Value) (ctx₀ : Context) : Value → Context → Prop
  | start : Visits v₀ ctx₀ v₀ ctx₀
  | child {v : Value} {ctx : Context} {k : Option ParentKey} {x : Value} :
      Visits v₀ ctx₀ v ctx → ChildAt v k x → Visits v₀ ctx₀ x (ctx.derive v k)

namespace Visits

variable {v₀ x : Value} {ctx₀ c : Context}

theorem start_eq (visited : Visits v₀ ctx₀ x c) : c.start = ctx₀.start := by
  induction visited with
  | start => rfl
  | child _ _ ih => exact ih

theorem options_eq (visited : Visits v₀ ctx₀ x c) : c.options = ctx₀.options := by
  induction visited with
  | start => rfl
  | child _ _ ih => exact ih

theorem validate (visited : Visits v₀ ctx₀ x c) (valid : ctx₀.validate = .ok ()) :
    c.validate = .ok () := by
  cases visited with
  | start => exact valid
  | child _ child => exact Context.validate_derive child.isObjectLike _

theorem parent_or_start (visited : Visits v₀ ctx₀ x c) :
    (x = v₀ ∧ c = ctx₀) ∨ ∃ p k, c.parent = some p ∧ c.parentKey = k ∧ ChildAt p k x := by
  cases visited with
  | start => exact .inl ⟨rfl, rfl⟩
  | @child v ctx k _ _ child => exact .inr ⟨v, k, rfl, rfl, child⟩

end Visits

end Check

namespace Engine

/-- The context is threaded through a check of `v₀` in `ctx₀`.  At every visited value, the
check goes on only with nested checks at visited values, so its validators run in visited
contexts; the custom validators are consulted only on invocations for a visited value in its
context, so replacing them by any that answer alike there changes nothing; and every visited
context keeps the start value and the options of `ctx₀`, is consistent when `ctx₀` is, and is
`ctx₀` itself for `v₀` or else has the container as its parent with the key the value was
found under: its index, the property's name, the map key for a value, none for a map key or a
set element. -/
theorem checkIn_threadsContext (e : Engine) (v₀ : Value) (ts₀ : Typeset) (ctx₀ : Context) :
    (∀ x c, Check.Visits v₀ ctx₀ x c → ∀ ts (R : Recur),
      (∀ y c', Check.Visits v₀ ctx₀ y c' → ∀ ts', R y ts' c' = e.checkIn y ts' c') →
        e.checkIn x ts c = Check.checkStep e R x ts c) ∧
      (∀ custom : CustomChecks,
        (∀ name inv, Check.Visits v₀ ctx₀ inv.value inv.context → custom name inv = e.custom name inv) →
          { e with custom }.checkIn v₀ ts₀ ctx₀ = e.checkIn v₀ ts₀ ctx₀) ∧
      ∀ x c, Check.Visits v₀ ctx₀ x c →
        c.start = ctx₀.start ∧ c.options = ctx₀.options ∧
          (ctx₀.validate = .ok () → c.validate = .ok ()) ∧
          ((x = v₀ ∧ c = ctx₀) ∨ ∃ p k, c.parent = some p ∧ c.parentKey = k ∧ Check.ChildAt p k x) := by
  refine ⟨fun x c visited ts R agree => ?_, fun custom agree => ?_, fun x c visited =>
    ⟨visited.start_eq, visited.options_eq, visited.validate, visited.parent_or_start⟩⟩
  · -- the children of a visited value are visited, in the contexts derived for them
    rw [e.checkIn_unfold]
    exact Check.checkStep_eq_of_children fun k y child ts' =>
      (agree y _ (visited.child child) ts').symm
  · have engines : ∀ v ctx, Check.Visits v₀ ctx₀ v ctx →
        Check.EnginesFollow (fun _ => False) { e with custom } e v ctx :=
      fun v ctx visited => ⟨fun _ => .inl rfl, fun name matched ts => agree name _ visited⟩
    exact Check.Follows.eq (fun _ stop => stop)
      (checkIn_follows (fun _ _ _ _ visited child => visited.child child) engines .start ts₀)

end Engine

end Conformance
