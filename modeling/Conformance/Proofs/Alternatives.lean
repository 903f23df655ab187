import Conformance.Typeset.Normal
import Mathlib.Data.List.Basic

/-!
# A well-formed list as its alternatives

The grammar reads a list element by element, keeping in `ArgsScope` which type an
arguments object may still attach to.  This file states what that walk accepts as data:
after an optional leading qualifier, a well-formed list is a sequence of alternatives (a
type, a type with its arguments, a shape or a nested list), possibly followed by one custom
validator (`Rule.Splits`).  With a deep check each alternative also carries the soundness
of the typesets nested in it.

From that description follow the facts the engine relies on: the units that
`Rule.units` cuts from a well-formed list are exactly its alternatives and then its
validator, and the fully-qualified form of a well-formed typeset is well formed again.
-/

namespace Conformance

namespace Rule

/-- What the grammar asks of the arguments of type `t` when it checks nested typesets: the
`$` of an object type is a sound shape, and the typeset arguments of a collection are sound
typesets. -/
def ArgsSound (o : GrammarOptions) (t : TypeName) (entries : List (String × Arg)) : Prop :=
  o.deep = true →
    if t.isObjectType then Typeset.validateShapeArg o t entries = .ok ()
    else ∀ key ∈ Typeset.typesetArgNames t, Typeset.validateTypesetArg o t key entries = .ok ()

/-- One alternative of a list as it is written: a type, a type with the arguments it takes,
a shape or a nested list, with its nested typesets sound under `o`. -/
inductive Alternative (o : GrammarOptions) : List Rule → Prop
  | type (t : TypeName) : Alternative o [.form (.type t)]
  | typeArgs (t : TypeName) (entries : List (String × Arg)) (takesArgs : t.hasArgs = true)
      (sound : ArgsSound o t entries) : Alternative o [.form (.type t), .args entries]
  | shape (props : List (String × Option Typeset))
      (sound : o.deep = true → Typeset.validateShape o props = .ok ()) :
      Alternative o [.form (.shape props)]
  | list (inner : List Rule) (sound : o.deep = true → Typeset.validate o (.list inner) = .ok ()) :
      Alternative o [.form (.list inner)]

/-- The elements of a list after its qualifier, cut into its alternatives and a last
custom validator. -/
inductive Splits (o : GrammarOptions) : List Rule → List (List Rule) → Prop
  | nil : Splits o [] []
  | validator (name : String) :
      Splits o [.form (.validator name)] [[.form (.validator name)]]
  | cons {unit rest : List Rule} {units : List (List Rule)} :
      Alternative o unit → Splits o rest units → Splits o (unit ++ rest) (unit :: units)

/-- What may follow the elements of a list read so far: its remaining alternatives, or
first the arguments of the type read last when it still takes them. -/
def SplitsAfter (o : GrammarOptions) (scope : ArgsScope) (rs : List Rule) : Prop :=
  (∃ units, Splits o rs units) ∨
    ∃ t entries rest units, scope = .type t false ∧ t.hasArgs = true ∧ ArgsSound o t entries ∧
      rs = .args entries :: rest ∧ Splits o rest units

theorem Alternative.head_form {o : GrammarOptions} {unit : List Rule}
    (alt : Alternative o unit) : ∃ ts rest, unit = .form ts :: rest := by
  cases alt <;> exact ⟨_, _, rfl⟩

theorem Splits.head_form {o : GrammarOptions} {rs : List Rule} {units : List (List Rule)}
    (split : Splits o rs units) : rs = [] ∨ ∃ ts rest, rs = .form ts :: rest := by
  cases split with
  | nil => exact .inl rfl
  | validator name => exact .inr ⟨_, _, rfl⟩
  | cons alt _ =>
      obtain ⟨ts, rest, rfl⟩ := alt.head_form
      exact .inr ⟨ts, _, rfl⟩

theorem Splits.eq_nil_of_units_nil {o : GrammarOptions} {rs : List Rule}
    (split : Splits o rs []) : rs = [] := by
  cases split
  rfl

theorem Splits.units_eq_nil {o : GrammarOptions} {rs : List Rule} {units : List (List Rule)}
    (split : Splits o rs units) (empty : rs = []) : units = [] := by
  cases split with
  | nil => rfl
  | validator name => cases empty
  | cons alt _ =>
      obtain ⟨ts, tail, rfl⟩ := alt.head_form
      cases empty

theorem nestAt_eq_ok {location : String} {r : Except GrammarError Unit} :
    Typeset.nestAt location r = .ok () ↔ r = .ok () := by
  cases r <;> simp [Typeset.nestAt, Except.mapError]

theorem validateRules_splitsAfter {o : GrammarOptions} {qualified : Bool} {length : Nat} :
    ∀ {rs : List Rule} {i : Nat} {scope : ArgsScope} {count : Nat},
      Typeset.validateRules o qualified length i scope count none rs = .ok () →
        SplitsAfter o scope rs ∨
          (i = 0 ∧ ∃ q rest, rs = .qualifier q :: rest ∧ SplitsAfter o scope rest)
  | [], _, _, _, _ => .inl (.inl ⟨[], .nil⟩)
  | r :: rest, i, scope, count, walked => by
      cases r with
      | qualifier q =>
          by_cases first : i = 0
          · subst first
            simp only [Typeset.validateRules, bne_self_eq_false, Bool.false_eq_true,
              if_false] at walked
            rcases validateRules_splitsAfter walked with after | ⟨impossible, _⟩
            · exact .inr ⟨rfl, q, rest, rfl, after⟩
            · omega
          · simp [Typeset.validateRules, first] at walked
      | args entries =>
          cases scope with
          | none => simp [Typeset.validateRules] at walked
          | implied => simp [Typeset.validateRules] at walked
          | type t hasArgs =>
              cases hasArgs with
              | true => simp [Typeset.validateRules] at walked
              | false =>
                  simp only [Typeset.validateRules] at walked
                  split at walked
                  · cases walked
                  · rename_i accepted
                    split at walked
                    · cases walked
                    · rename_i nestedOk
                      have takes : t.hasArgs = true := by simpa using accepted
                      have sound : ArgsSound o t entries := by
                        intro deep
                        simp only [deep, Bool.not_true, Bool.false_eq_true, if_false]
                          at nestedOk
                        split at nestedOk
                        · simpa [*, nestAt_eq_ok] using nestedOk
                        · cases t with
                          | map =>
                              simp only [Typeset.typesetArgNames] at nestedOk
                              split at nestedOk
                              · cases nestedOk
                              · rename_i keysOk
                                simp_all [Typeset.typesetArgNames, nestAt_eq_ok]
                          | _ => simp_all [Typeset.typesetArgNames, nestAt_eq_ok]
                      rcases validateRules_splitsAfter walked with after | ⟨impossible, _⟩
                      · rcases after with ⟨units, split⟩ | ⟨_, _, _, _, scopeEq, _⟩
                        · exact .inl (.inr ⟨t, entries, rest, units, rfl, takes, sound, rfl, split⟩)
                        · cases scopeEq
                      · omega
      | form ts =>
          cases ts with
          | type t =>
              simp only [Typeset.validateRules] at walked
              rcases validateRules_splitsAfter walked with after | ⟨impossible, _⟩
              · rcases after with ⟨units, split⟩ | ⟨t', entries, rest', units, scopeEq, takes,
                  sound, rfl, split⟩
                · exact .inl (.inl ⟨_, .cons (.type t) split⟩)
                · cases scopeEq
                  exact .inl (.inl ⟨_, .cons (.typeArgs t entries takes sound) split⟩)
              · omega
          | validator name =>
              simp only [Typeset.validateRules] at walked
              split at walked
              · cases walked
              · cases rest with
                | nil => exact .inl (.inl ⟨_, .validator name⟩)
                | cons r rest => simp [Typeset.validateRules] at walked
          | shape props =>
              simp only [Typeset.validateRules] at walked
              split at walked
              · cases walked
              · split at walked
                · cases walked
                · split at walked
                  · cases walked
                  · rename_i nestedOk
                    have sound : o.deep = true → Typeset.validateShape o props = .ok () := by
                      intro deep
                      simpa [deep, nestAt_eq_ok] using nestedOk
                    rcases validateRules_splitsAfter walked with after | ⟨impossible, _⟩
                    · rcases after with ⟨units, split⟩ | ⟨_, _, _, _, scopeEq, _⟩
                      · exact .inl (.inl ⟨_, .cons (.shape props sound) split⟩)
                      · cases scopeEq
                    · omega
          | list inner =>
              simp only [Typeset.validateRules] at walked
              split at walked
              · cases walked
              · split at walked
                · cases walked
                · rename_i nestedOk
                  have sound : o.deep = true → Typeset.validate o (.list inner) = .ok () := by
                    intro deep
                    simp only [deep, Bool.not_true, Bool.false_eq_true, if_false] at nestedOk
                    simp only [Typeset.validate]
                    split at nestedOk
                    · cases nestedOk
                    · rename_i opened
                      simpa [opened, nestAt_eq_ok] using nestedOk
                  rcases validateRules_splitsAfter walked with after | ⟨impossible, _⟩
                  · rcases after with ⟨units, split⟩ | ⟨_, _, _, _, scopeEq, _⟩
                    · exact .inl (.inl ⟨_, .cons (.list inner sound) split⟩)
                    · cases scopeEq
                  · omega

theorem splits_of_validate {o : GrammarOptions} {rules : List Rule}
    (wellFormed : Typeset.validate o (.list rules) = .ok ()) :
    ∃ lead s units, rules = lead ++ s ∧ (lead = [] ∨ ∃ q, lead = [.qualifier q]) ∧
      Splits o s units ∧ units ≠ [] := by
  simp only [Typeset.validate] at wellFormed
  split at wellFormed
  · cases wellFormed
  · rename_i opened
    rcases validateRules_splitsAfter wellFormed with after | ⟨-, q, rest, rfl, after⟩
    · rcases after with ⟨units, split⟩ | ⟨_, _, _, _, scopeEq, _⟩
      · refine ⟨[], rules, units, rfl, .inl rfl, split, ?_⟩
        rintro rfl
        cases split.eq_nil_of_units_nil
        simp [Typeset.listOpening] at opened
      · cases scopeEq
    · rcases after with ⟨units, split⟩ | ⟨_, _, _, _, scopeEq, _⟩
      · refine ⟨[.qualifier q], rest, units, rfl, .inr ⟨q, rfl⟩, split, ?_⟩
        rintro rfl
        cases split.eq_nil_of_units_nil
        simp [Typeset.validateRules, Typeset.listClosing] at wellFormed
      · cases scopeEq

theorem nextUnit_alternative {o : GrammarOptions} {rules unit rest : List Rule}
    {units : List (List Rule)} {c : Nat} (alt : Alternative o unit) (split : Splits o rest units)
    (drop : rules.drop c = unit ++ rest) :
    nextUnit rules c .exclude = (unit, c + unit.length) := by
  cases alt with
  | type t =>
      rcases split.head_form with rfl | ⟨ts, rest', rfl⟩ <;>
        simp [nextUnit, drop, Rule.isQualifier]
  | typeArgs t entries takes sound => simp [nextUnit, drop, Rule.isQualifier, takes]
  | shape props sound => simp [nextUnit, drop, Rule.isQualifier]
  | list inner sound => simp [nextUnit, drop, Rule.isQualifier]

theorem nextUnit_validator {rules : List Rule} {c : Nat} {name : String}
    (drop : rules.drop c = [.form (.validator name)]) :
    nextUnit rules c .exclude = ([.form (.validator name)], c + 1) := by
  simp [nextUnit, drop, Rule.isQualifier]

theorem nextUnit_qualifier {rules rest : List Rule} {c : Nat} {q : Qualifier} {ts : Typeset}
    (drop : rules.drop c = .qualifier q :: .form ts :: rest) :
    nextUnit rules c .exclude = nextUnit rules (c + 1) .exclude := by
  have dropNext : rules.drop (c + 1) = .form ts :: rest := by
    rw [← List.drop_drop, drop]
    rfl
  simp only [nextUnit, drop, dropNext, Rule.isQualifier]
  simp

theorem drop_after_unit {rules unit rest : List Rule} {c : Nat}
    (drop : rules.drop c = unit ++ rest) : rules.drop (c + unit.length) = rest := by
  rw [← List.drop_drop, drop, List.drop_left]

theorem unitsFrom_of_drop_nil {rules : List Rule} {mode : QualifierMode} {c : Nat}
    (drop : rules.drop c = []) (fuel : Nat) : unitsFrom rules mode fuel c = ([], c) := by
  cases fuel with
  | zero => rfl
  | succ fuel => simp [unitsFrom, nextUnit, drop]

theorem unitsFrom_splits {o : GrammarOptions} {rules s : List Rule} {units : List (List Rule)}
    (split : Splits o s units) :
    ∀ {c fuel : Nat}, rules.drop c = s → s.length < fuel →
      unitsFrom rules .exclude fuel c = (units, c + s.length) := by
  induction split with
  | nil =>
      intro c fuel drop _
      simpa using unitsFrom_of_drop_nil drop fuel
  | validator name =>
      intro c fuel drop enough
      obtain ⟨fuel, rfl⟩ : ∃ f, fuel = f + 1 := ⟨fuel - 1, by simp at enough; omega⟩
      have dropEnd : rules.drop (c + 1) = [] :=
        drop_after_unit (by simpa using drop : rules.drop c = [.form (.validator name)] ++ [])
      simp [unitsFrom, nextUnit_validator drop, unitsFrom_of_drop_nil dropEnd]
  | @cons unit rest units alt restSplit ih =>
      intro c fuel drop enough
      obtain ⟨fuel, rfl⟩ : ∃ f, fuel = f + 1 := ⟨fuel - 1, by simp at enough; omega⟩
      obtain ⟨ts, tail, unitEq⟩ := alt.head_form
      have unitLength : 0 < unit.length := by simp [unitEq]
      have unitNonempty : unit.isEmpty = false := by simp [unitEq]
      have restEnough : rest.length < fuel := by simp at enough; omega
      simp only [unitsFrom, nextUnit_alternative alt restSplit drop, unitNonempty,
        Bool.false_eq_true, if_false, ih (drop_after_unit drop) restEnough, List.length_append]
      simp only [Prod.mk.injEq, true_and]
      omega

theorem units_of_splits {o : GrammarOptions} {rules lead s : List Rule}
    {units : List (List Rule)} (rulesEq : rules = lead ++ s)
    (leading : lead = [] ∨ ∃ q, lead = [.qualifier q]) (split : Splits o s units)
    (nonempty : units ≠ []) : Rule.units rules .exclude = (units, rules.length) := by
  rcases leading with rfl | ⟨q, rfl⟩
  · simp only [List.nil_append] at rulesEq
    subst rulesEq
    simpa [Rule.units] using unitsFrom_splits split (c := 0) (by simp) (by omega)
  · subst rulesEq
    obtain ⟨ts, rest, sEq⟩ : ∃ ts rest, s = .form ts :: rest := by
      rcases split.head_form with sNil | found
      · exact absurd (split.units_eq_nil sNil) nonempty
      · exact found
    have skip : nextUnit (.qualifier q :: s) 0 .exclude = nextUnit (.qualifier q :: s) 1 .exclude :=
      nextUnit_qualifier (by simp [sEq] : (Rule.qualifier q :: s).drop 0 = .qualifier q :: .form ts :: rest)
    have fromOne := unitsFrom_splits split (by simp : (Rule.qualifier q :: s).drop 1 = s)
      (by simp only [List.length_cons]; omega : s.length < (Rule.qualifier q :: s).length + 1)
    simp only [Rule.units, List.singleton_append]
    rw [show unitsFrom (.qualifier q :: s) .exclude ((.qualifier q :: s).length + 1) 0 =
        unitsFrom (.qualifier q :: s) .exclude ((.qualifier q :: s).length + 1) 1 by
      simp only [unitsFrom, skip], fromOne]
    simp only [List.length_cons, Prod.mk.injEq, true_and]
    omega

end Rule

namespace Typeset

theorem qualifyRest_qualifyRest (typed : Bool) (rs : List Rule) :
    qualifyRest typed (qualifyRest typed rs) = qualifyRest typed rs := by
  induction rs generalizing typed with
  | nil => rfl
  | cons r rest ih =>
      cases r with
      | qualifier q => simp only [qualifyRest, ih]
      | args entries => simp only [qualifyRest, ih]
      | form ts =>
          cases ts with
          | validator name => cases typed <;> simp [qualifyRest, ih]
          | _ => simp [qualifyRest, ih]

theorem fullyQualified_fullyQualified (ts : Typeset) (q₁ : Option Qualifier) (q : Qualifier) :
    (ts.fullyQualified q₁).fullyQualified (some q) = ts.fullyQualified (some q) := by
  cases ts with
  | list rules =>
      match rules with
      | [] => rfl
      | .qualifier own :: rest => simp [fullyQualified, qualifyRest_qualifyRest]
      | .args entries :: rest => simp [fullyQualified, qualifyRest_qualifyRest]
      | .form f :: rest => simp [fullyQualified, qualifyRest_qualifyRest]
  | _ => rfl

end Typeset

namespace Rule

theorem Alternative.qualifyRest_append {o : GrammarOptions} {unit : List Rule}
    (alt : Alternative o unit) (typed : Bool) (rest : List Rule) :
    Typeset.qualifyRest typed (unit ++ rest) =
      Typeset.qualifyRest true unit ++ Typeset.qualifyRest true rest := by
  cases alt <;> rfl

theorem Alternative.qualified {o : GrammarOptions} {unit : List Rule} (alt : Alternative o unit) :
    Alternative {} (Typeset.qualifyRest true unit) := by
  cases alt with
  | type t => exact .type t
  | typeArgs t entries takes _ => exact .typeArgs t entries takes (fun deep => nomatch deep)
  | shape props _ => exact .typeArgs .object _ rfl (fun deep => nomatch deep)
  | list inner _ => exact .typeArgs .array _ rfl (fun deep => nomatch deep)

theorem Splits.qualifyRest {o : GrammarOptions} {s : List Rule} {units : List (List Rule)}
    (split : Splits o s units) :
    Splits {} (Typeset.qualifyRest true s) (units.map (Typeset.qualifyRest true)) := by
  induction split with
  | nil => exact .nil
  | validator name => exact .validator name
  | cons alt _ ih =>
      rw [alt.qualifyRest_append]
      exact .cons alt.qualified ih

theorem Splits.qualifyRest_false {o : GrammarOptions} {s : List Rule} {units : List (List Rule)}
    (split : Splits o s units) (notLone : ∀ name, s ≠ [.form (.validator name)]) :
    Typeset.qualifyRest false s = Typeset.qualifyRest true s := by
  cases split with
  | nil => rfl
  | validator name => exact absurd rfl (notLone name)
  | cons alt _ => rw [alt.qualifyRest_append, alt.qualifyRest_append]

theorem validateRules_qualifyRest {o : GrammarOptions} {s : List Rule}
    {units : List (List Rule)} (split : Splits o s units) (qualified : Bool) (length : Nat) :
    ∀ (typed : Bool) (i count : Nat) (scope : ArgsScope), 0 < i → (0 < count ∨ s ≠ []) →
      Typeset.validateRules {} qualified length i scope count none
        (Typeset.qualifyRest typed s) = .ok () := by
  induction split with
  | nil =>
      intro typed i count scope _ typedBefore
      have counted : count ≠ 0 := by simp at typedBefore; omega
      simp [Typeset.qualifyRest, Typeset.validateRules, Typeset.listClosing, counted]
  | validator name =>
      intro typed i count scope _ _
      cases typed <;> simp [Typeset.qualifyRest, Typeset.validateRules, Typeset.listClosing]
  | cons alt restSplit ih =>
      intro typed i count scope _ _
      rw [alt.qualifyRest_append]
      cases alt with
      | type t =>
          simpa [Typeset.qualifyRest, Typeset.validateRules] using
            ih true (i + 1) (count + 1) (.type t false) (by omega) (.inl (by omega))
      | typeArgs t entries takes _ =>
          simpa [Typeset.qualifyRest, Typeset.validateRules, takes] using
            ih true (i + 1 + 1) (count + 1) (.type t true) (by omega) (.inl (by omega))
      | shape props _ =>
          simpa [Typeset.qualifyRest, Typeset.validateRules, TypeName.hasArgs] using
            ih true (i + 1 + 1) (count + 1) (.type .object true) (by omega) (.inl (by omega))
      | list inner _ =>
          simpa [Typeset.qualifyRest, Typeset.validateRules, TypeName.hasArgs] using
            ih true (i + 1 + 1) (count + 1) (.type .array true) (by omega) (.inl (by omega))

end Rule

namespace Typeset

theorem validate_fullyQualified {ts : Typeset} (wellFormed : validate {} ts = .ok ())
    (q : Option Qualifier) : validate {} (ts.fullyQualified q) = .ok () := by
  cases ts with
  | list rules =>
      obtain ⟨lead, s, units, rfl, leading, split, nonempty⟩ := Rule.splits_of_validate wellFormed
      have sNonempty : s ≠ [] := fun sNil => nonempty (split.units_eq_nil sNil)
      have walk := Rule.validateRules_qualifyRest split true
        ((Typeset.qualifyRest false s).length + 1) false 1 0 .none (by omega) (.inr sNonempty)
      obtain ⟨ts, rest, sEq⟩ : ∃ ts rest, s = .form ts :: rest := by
        rcases split.head_form with sNil | found
        · exact absurd sNil sNonempty
        · exact found
      rcases leading with rfl | ⟨own, rfl⟩ <;>
        simpa [fullyQualified, sEq, validate, listOpening, validateRules, Rule.isQualifier] using walk
  | _ => simp [fullyQualified, validate, listOpening, validateRules, listClosing, Rule.isQualifier,
      TypeName.hasArgs]

end Typeset

end Conformance
