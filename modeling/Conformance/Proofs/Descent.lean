import Conformance.Proofs.Choice

/-!
# Where a check descends, and one run beside another

One level of a check under one engine follows one level under another when the engines do at
the value and context at hand and the checks of the children follow each other
(`Check.checkStep_follows`).  By induction on the fuel, whole checks then follow each other at
every value and context of a family closed under descent to children (`Engine.checkIn_follows`):
this is the simulation of one run by another that the statements about the context along a
check and about engines with fewer validators rest on.

Main statement: `Engine.checkIn_wellFounded`.  A check is well founded: its nested checks are
all of children, each below its container, so the check is the one solution of its recursion,
fuel beyond the depth of the value changes nothing, and the loop over the alternatives of a
list reads each element once.
-/

namespace Conformance

namespace Check

theorem checkFuel_follows {stops : TypesetError → Prop} {e₁ e₂ : Engine}
    {S : Value → Context → Prop} (closed : ∀ v ctx k x, S v ctx → ChildAt v k x → S x (ctx.derive v k))
    (engines : ∀ v ctx, S v ctx → EnginesFollow stops e₁ e₂ v ctx) :
    ∀ (fuel : Nat) {v : Value} {ctx : Context}, S v ctx → ∀ ts,
      Follows stops (checkFuel e₁ fuel v ts ctx) (checkFuel e₂ fuel v ts ctx)
  | 0, _, _, _, _ => .refl _
  | fuel + 1, v, ctx, member, _ =>
      checkStep_follows (engines v ctx member) fun k x child ts =>
        checkFuel_follows closed engines fuel (closed v ctx k x member child) ts

end Check

namespace Rule

theorem lt_nextUnit {rules : List Rule} {c : Nat} {mode : QualifierMode} (inside : c < rules.length) :
    c < (nextUnit rules c mode).2 := by
  obtain ⟨r, rest, dropEq⟩ : ∃ r rest, rules.drop c = r :: rest := by
    cases dropped : rules.drop c with
    | nil => simp at dropped; omega
    | cons r rest => exact ⟨r, rest, rfl⟩
  unfold nextUnit
  simp only [dropEq]
  by_cases qualifier : r.isQualifier = true
  · cases rest with
    | nil => simp [qualifier]
    | cons r₂ rest₂ =>
        simp only [qualifier, if_true]
        split
        · split <;> dsimp only <;> omega
        · simp
  · simp only [qualifier, Bool.false_eq_true, if_false]
    split
    · split <;> dsimp only <;> omega
    · simp

end Rule

namespace Check

theorem tryAlternatives_fuel {e : Engine} {recur : Recur} {v : Value} {rules : List Rule}
    {ctx : Context} {q : Qualifier} {impliesAny : Bool} :
    ∀ {f g cursor : Nat} {single : Option Bool} {lone : Option Mismatch},
      rules.length - cursor < f → rules.length - cursor < g →
        tryAlternatives e recur v rules ctx q impliesAny f cursor single lone =
          tryAlternatives e recur v rules ctx q impliesAny g cursor single lone
  | 0, _, _, _, _, enough, _ => absurd enough (Nat.not_lt_zero _)
  | _, 0, _, _, _, _, enough' => absurd enough' (Nat.not_lt_zero _)
  | f + 1, g + 1, cursor, single, lone, enough, enough' => by
      by_cases past : rules.length ≤ cursor
      · have dropped : rules.drop cursor = [] := List.drop_eq_nil_of_le past
        rw [tryAlternatives_end dropped, tryAlternatives_end dropped]
      · have advanced : cursor < (Rule.nextUnit rules cursor .exclude).2 :=
          Rule.lt_nextUnit (Nat.lt_of_not_le past)
        have later : ∀ single lone,
            tryAlternatives e recur v rules ctx q impliesAny f (Rule.nextUnit rules cursor .exclude).2
                single lone =
              tryAlternatives e recur v rules ctx q impliesAny g (Rule.nextUnit rules cursor .exclude).2
                single lone :=
          fun _ _ => tryAlternatives_fuel (by omega) (by omega)
        simp only [tryAlternatives, later]

end Check

namespace Engine

/-- Checks follow each other on a family of values and contexts closed under descent, when
the engines do at each member of the family. -/
theorem checkIn_follows {stops : TypesetError → Prop} {e₁ e₂ : Engine} {S : Value → Context → Prop}
    (closed : ∀ v ctx k x, S v ctx → Check.ChildAt v k x → S x (ctx.derive v k))
    (engines : ∀ v ctx, S v ctx → Check.EnginesFollow stops e₁ e₂ v ctx) {v : Value} {ctx : Context}
    (member : S v ctx) (ts : Typeset) : Check.Follows stops (e₁.checkIn v ts ctx) (e₂.checkIn v ts ctx) :=
  Check.checkFuel_follows closed engines _ member ts

theorem eq_checkIn_of_fixed (e : Engine) {R : Recur}
    (fixed : ∀ v ts ctx, R v ts ctx = Check.checkStep e R v ts ctx) : R = e.checkIn := by
  have agree : ∀ n v, v.depth < n → ∀ ts ctx, R v ts ctx = e.checkIn v ts ctx := by
    intro n
    induction n with
    | zero => intro v below; omega
    | succ n ih =>
        intro v below ts ctx
        rw [fixed, e.checkIn_unfold]
        exact Check.checkStep_congr fun x shallower ts' ctx' => ih x (by omega) ts' ctx'
  funext v ts ctx
  exact agree _ v (Nat.lt_succ_self _) ts ctx

/-- A check is well founded.  One level of a check makes nested checks only of the children of
its value, each in the context derived for it, and a child lies strictly below its container
(an absent property's `undefined` below an object-like value included).  So `checkIn` is the one
solution of the recursion of a check, and fuel beyond the depth of the value changes nothing.
The loop over the alternatives of a list moves past at least one element at each step, so fuel
beyond the elements left changes nothing either. -/
theorem checkIn_wellFounded (e : Engine) :
    (∀ v ts ctx (r₁ r₂ : Recur),
      (∀ k x, Check.ChildAt v k x → ∀ ts', r₁ x ts' (ctx.derive v k) = r₂ x ts' (ctx.derive v k)) →
        Check.checkStep e r₁ v ts ctx = Check.checkStep e r₂ v ts ctx) ∧
      (∀ v k x, Check.ChildAt v k x → x.depth < v.depth) ∧
      (∀ R : Recur, (∀ v ts ctx, R v ts ctx = Check.checkStep e R v ts ctx) ↔ R = e.checkIn) ∧
      (∀ fuel v ts ctx, v.depth < fuel → Check.checkFuel e fuel v ts ctx = e.checkIn v ts ctx) ∧
      ∀ recur v rules ctx q impliesAny cursor single lone f g,
        rules.length - cursor < f → rules.length - cursor < g →
          Check.tryAlternatives e recur v rules ctx q impliesAny f cursor single lone =
            Check.tryAlternatives e recur v rules ctx q impliesAny g cursor single lone := by
  refine ⟨fun v ts ctx r₁ r₂ agree => Check.checkStep_eq_of_children agree,
    fun v k x child => child.depth_lt, fun R => ⟨e.eq_checkIn_of_fixed, ?_⟩,
    fun fuel v ts ctx enough => e.checkFuel_eq_checkIn enough ts ctx,
    fun recur v rules ctx q impliesAny cursor single lone f g enough enough' =>
      Check.tryAlternatives_fuel enough enough'⟩
  rintro rfl v ts ctx
  exact e.checkIn_unfold v ts ctx

end Engine

end Conformance
