import Conformance.Proofs.Choice

/-!
# The alternatives of a list, in every qualifier mode

`Typeset.subtypes` checks a list against the shallow grammar and cuts it into units with
`Rule.nextUnit`, from the first element on, until the cut comes back empty.  A unit is one
alternative (a type, a type with the arguments it takes, a shape or a nested list) or the
custom validator the list ends with, and the mode says which qualifier goes in front:

* `include` keeps the list's own qualifier on the first unit and puts none on the others;
* `exclude` puts a qualifier on none of them;
* `default q` keeps the list's own qualifier on the first unit, or puts `q` there when the list
  has none, and puts `q` on every later unit.

Main statement: `Typeset.subtypes_partition`.  A well-formed list is cut into the units of
`Rule.Splits` after its qualifier, with the qualifiers the mode asks for
(`QualifierMode.withLeads`), and the cut ends at the end of the list, where the next cut is
empty.  So nothing of the list is lost or read twice: in `include` mode the units make up the
list again, in `exclude` mode the list after its qualifier; no unit starts with arguments; only
the last unit can be the custom validator; and the other units are as many as the types, shapes
and nested lists of the list.  The split is a function of the list and the mode: restarting it
from the first element cuts the same units, and the list is left as it was.
-/

namespace Conformance

namespace QualifierMode

/-- The qualifier in front of a unit cut in this mode, given the list's own qualifier before
it; past the first unit the list's own qualifier is `none`. -/
def lead : QualifierMode → Option Qualifier → List Rule
  | .include, own => own.toList.map .qualifier
  | .exclude, _ => []
  | .default q, own => [.qualifier (own.getD q)]

/-- The units of a list in this mode, from the units it is cut into without qualifiers and
its own qualifier `own`: the first unit takes the qualifier the mode gives with `own`, the
later ones the qualifier it gives with none. -/
def withLeads (mode : QualifierMode) (own : Option Qualifier) :
    List (List Rule) → List (List Rule)
  | [] => []
  | unit :: more => (mode.lead own ++ unit) :: more.map (mode.lead none ++ ·)

theorem lead_qualifiers (mode : QualifierMode) (own : Option Qualifier) :
    mode.lead own = [] ∨ ∃ q, mode.lead own = [.qualifier q] := by
  cases mode <;> cases own <;> simp [lead]

end QualifierMode

namespace Rule

/-- The qualifier a list starts with, if it does. -/
def ownQualifier : List Rule → Option Qualifier
  | .qualifier q :: _ => some q
  | _ => none

/-- A list's elements after its leading qualifier, if it has one. -/
def afterQualifier : List Rule → List Rule
  | .qualifier _ :: rest => rest
  | rules => rules

/-- An element that starts an alternative: a type, a shape or a nested list. -/
def startsAlternative : Rule → Bool
  | .form (.type _) | .form (.shape _) | .form (.list _) => true
  | _ => false

/-! ### One cut in a mode -/

theorem nextUnit_form {rules rest : List Rule} {c : Nat} {ts : Typeset}
    (drop : rules.drop c = .form ts :: rest) (mode : QualifierMode) :
    nextUnit rules c mode =
      (mode.lead none ++ (nextUnit rules c .exclude).1, (nextUnit rules c .exclude).2) := by
  cases mode <;> cases ts <;> rcases rest with _ | ⟨_ | _ | _, _⟩ <;>
    simp [nextUnit, drop, Rule.isQualifier, QualifierMode.lead]
  split_ifs <;> rfl

theorem nextUnit_afterQualifier {rules rest : List Rule} {c : Nat} {q : Qualifier} {ts : Typeset}
    (drop : rules.drop c = .qualifier q :: .form ts :: rest) (mode : QualifierMode) :
    nextUnit rules c mode =
      (mode.lead (some q) ++ (nextUnit rules (c + 1) .exclude).1,
        (nextUnit rules (c + 1) .exclude).2) := by
  have dropNext : rules.drop (c + 1) = .form ts :: rest := by
    rw [← List.drop_drop, drop]
    rfl
  cases mode <;> cases ts <;> rcases rest with _ | ⟨_ | _ | _, _⟩ <;>
    simp [nextUnit, drop, dropNext, Rule.isQualifier, QualifierMode.lead] <;>
    split_ifs <;> rfl

/-! ### The split of a well-formed list -/

theorem Splits.cons_inv {o : GrammarOptions} {s unit : List Rule} {more : List (List Rule)}
    (split : Splits o s (unit :: more)) : ∃ rest, s = unit ++ rest ∧ Splits o rest more := by
  cases split with
  | validator name => exact ⟨[], rfl, .nil⟩
  | cons _ restSplit => exact ⟨_, rfl, restSplit⟩

theorem Splits.head_unit {o : GrammarOptions} {s unit : List Rule} {more : List (List Rule)}
    (split : Splits o s (unit :: more)) : ∃ ts tail, unit = .form ts :: tail := by
  cases split with
  | validator name => exact ⟨_, _, rfl⟩
  | cons alt _ => exact alt.head_form

theorem unitsFrom_splits_mode {o : GrammarOptions} {rules s : List Rule}
    {units : List (List Rule)} (split : Splits o s units) (mode : QualifierMode) :
    ∀ {c fuel : Nat}, rules.drop c = s → s.length < fuel →
      unitsFrom rules mode fuel c = (units.map (mode.lead none ++ ·), c + s.length) := by
  induction split with
  | nil =>
      intro c fuel drop _
      simpa using unitsFrom_of_drop_nil drop fuel
  | validator name =>
      intro c fuel drop enough
      obtain ⟨fuel, rfl⟩ : ∃ f, fuel = f + 1 := ⟨fuel - 1, by simp at enough; omega⟩
      have dropEnd : rules.drop (c + 1) = [] :=
        drop_after_unit (by simpa using drop : rules.drop c = [.form (.validator name)] ++ [])
      have cut : nextUnit rules c mode = (mode.lead none ++ [.form (.validator name)], c + 1) := by
        rw [nextUnit_form drop mode, nextUnit_validator drop]
      simp [unitsFrom, cut, unitsFrom_of_drop_nil dropEnd]
  | @cons unit rest units alt restSplit ih =>
      intro c fuel drop enough
      obtain ⟨fuel, rfl⟩ : ∃ f, fuel = f + 1 := ⟨fuel - 1, by simp at enough; omega⟩
      obtain ⟨ts, tail, unitEq⟩ := alt.head_form
      have unitLength : 0 < unit.length := by simp [unitEq]
      have cut : nextUnit rules c mode = (mode.lead none ++ unit, c + unit.length) := by
        rw [nextUnit_form (by rw [drop, unitEq]; rfl) mode,
          nextUnit_alternative alt restSplit drop]
      have unitNonempty : (mode.lead none ++ unit).isEmpty = false := by simp [unitEq]
      have restEnough : rest.length < fuel := by simp at enough; omega
      simp only [unitsFrom, cut, unitNonempty, Bool.false_eq_true, if_false,
        ih (drop_after_unit drop) restEnough, List.length_append, List.map_cons]
      simp only [Prod.mk.injEq, true_and]
      omega

theorem units_of_splits_mode {o : GrammarOptions} {lead s : List Rule}
    {units : List (List Rule)} (leading : lead = [] ∨ ∃ q, lead = [.qualifier q])
    (split : Splits o s units) (nonempty : units ≠ []) (mode : QualifierMode) :
    Rule.units (lead ++ s) mode =
      (mode.withLeads (ownQualifier (lead ++ s)) units, (lead ++ s).length) := by
  obtain ⟨unit, more, rfl⟩ := List.exists_cons_of_ne_nil nonempty
  obtain ⟨ts, tail, sEq⟩ := split.head_form.resolve_left fun sNil =>
    nonempty (split.units_eq_nil sNil)
  rcases leading with rfl | ⟨q, rfl⟩
  · simp only [List.nil_append] at *
    have ownNone : ownQualifier s = none := by rw [sEq]; rfl
    rw [Rule.units, unitsFrom_splits_mode split mode (c := 0) (by simp) (by omega), ownNone]
    simp [QualifierMode.withLeads]
  · -- the qualifier goes with the first unit, then the rest is cut from where it ends
    obtain ⟨ts', tail', unitEq⟩ := split.head_unit
    obtain ⟨rest, rfl, restSplit⟩ := split.cons_inv
    have dropFirst : (Rule.qualifier q :: (unit ++ rest)).drop 1 = unit ++ rest := rfl
    have first : nextUnit (Rule.qualifier q :: (unit ++ rest)) 0 mode =
        (mode.lead (some q) ++ unit, 1 + unit.length) := by
      rw [nextUnit_afterQualifier (by rw [List.drop_zero, sEq]) mode, (split.first dropFirst).1]
    have dropRest : (Rule.qualifier q :: (unit ++ rest)).drop (1 + unit.length) = rest := by
      rw [← List.drop_drop, dropFirst, List.drop_left]
    have unitNonempty : (mode.lead (some q) ++ unit).isEmpty = false := by simp [unitEq]
    have restCut : unitsFrom (Rule.qualifier q :: (unit ++ rest)) mode
        (1 + unit.length + rest.length) (1 + unit.length) =
          (more.map (mode.lead none ++ ·), 1 + unit.length + rest.length) :=
      unitsFrom_splits_mode restSplit mode dropRest (by omega)
    have fuelEq : (Rule.qualifier q :: (unit ++ rest)).length + 1 =
        (1 + unit.length + rest.length) + 1 := by simp; omega
    rw [List.singleton_append, Rule.units, fuelEq]
    simp only [unitsFrom, first, unitNonempty, Bool.false_eq_true, if_false, restCut]
    simp [ownQualifier, QualifierMode.withLeads]
    omega

/-! ### What a split is made of -/

section Split

variable {o : GrammarOptions} {s : List Rule} {units : List (List Rule)}

theorem Splits.flatten_eq (split : Splits o s units) : units.flatten = s := by
  induction split with
  | nil => rfl
  | validator name => rfl
  | cons _ _ ih => simp [ih]

theorem Splits.unit_form (split : Splits o s units) {unit : List Rule} (member : unit ∈ units) :
    Alternative o unit ∨ ∃ name, unit = [.form (.validator name)] := by
  induction split with
  | nil => cases member
  | validator name =>
      rw [List.mem_singleton] at member
      exact .inr ⟨name, member⟩
  | cons alt _ ih =>
      rcases List.mem_cons.mp member with rfl | later
      · exact .inl alt
      · exact ih later

theorem Splits.startsForm_of_mem (split : Splits o s units) {unit : List Rule}
    (member : unit ∈ units) : ∃ ts tail, unit = .form ts :: tail := by
  rcases split.unit_form member with alt | ⟨name, rfl⟩
  · exact alt.head_form
  · exact ⟨_, _, rfl⟩

theorem Splits.alternative_of_mem_dropLast (split : Splits o s units) {unit : List Rule}
    (member : unit ∈ units.dropLast) : Alternative o unit := by
  induction split with
  | nil => cases member
  | validator name => cases member
  | @cons first rest more alt restSplit ih =>
      cases more with
      | nil => cases member
      | cons next later =>
          rw [List.dropLast_cons_cons, List.mem_cons] at member
          rcases member with rfl | member
          · exact alt
          · exact ih member

theorem Splits.countP_alternatives (split : Splits o s units) :
    units.countP (fun unit => !unit.any isValidator) = s.countP startsAlternative := by
  induction split with
  | nil => rfl
  | validator name => rfl
  | cons alt _ ih =>
      rw [List.countP_cons, List.countP_append, ih]
      cases alt <;> simp [isValidator, startsAlternative, List.countP_cons, Nat.add_comm]

end Split

end Rule

namespace QualifierMode

variable (mode : QualifierMode) (own : Option Qualifier)

theorem any_isValidator_lead : (mode.lead own).any Rule.isValidator = false := by
  cases mode <;> cases own <;> rfl

theorem withLeads_ne_nil {units : List (List Rule)} (nonempty : units ≠ []) :
    mode.withLeads own units ≠ [] := by
  cases units with
  | nil => exact absurd rfl nonempty
  | cons unit more => simp [withLeads]

theorem countP_withLeads (units : List (List Rule)) :
    (mode.withLeads own units).countP (fun unit => !unit.any Rule.isValidator) =
      units.countP (fun unit => !unit.any Rule.isValidator) := by
  cases units with
  | nil => rfl
  | cons unit more =>
      have sameTest : (fun unit => !unit.any Rule.isValidator) ∘ (mode.lead none ++ ·) =
          fun unit => !unit.any Rule.isValidator := by
        funext unit
        simp [any_isValidator_lead]
      simp only [withLeads, List.countP_cons, List.countP_map, List.any_append,
        any_isValidator_lead, Bool.false_or, sameTest]

theorem lead_append_ne_args {unit : List Rule} (startsForm : ∃ ts tail, unit = .form ts :: tail)
    (a : Args) (rest : List Rule) : mode.lead own ++ unit ≠ .args a :: rest := by
  obtain ⟨ts, tail, rfl⟩ := startsForm
  rcases mode.lead_qualifiers own with leadEq | ⟨q, leadEq⟩ <;> simp [leadEq]

theorem flatten_withLeads_include {units : List (List Rule)} (nonempty : units ≠ []) :
    (QualifierMode.include.withLeads own units).flatten = own.toList.map .qualifier ++ units.flatten := by
  obtain ⟨unit, more, rfl⟩ := List.exists_cons_of_ne_nil nonempty
  simp [withLeads, lead]

theorem withLeads_exclude (units : List (List Rule)) :
    QualifierMode.exclude.withLeads own units = units := by
  cases units <;> simp [withLeads, lead]

end QualifierMode

namespace Rule

theorem splits_afterQualifier {rules : List Rule}
    (wellFormed : Typeset.validate {} (.list rules) = .ok ()) :
    ∃ units, rules = (ownQualifier rules).toList.map .qualifier ++ afterQualifier rules ∧
      Splits {} (afterQualifier rules) units ∧ units ≠ [] := by
  obtain ⟨lead, s, units, rfl, leading, split, nonempty⟩ := splits_of_validate wellFormed
  obtain ⟨ts, tail, rfl⟩ := split.head_form.resolve_left fun sNil =>
    nonempty (split.units_eq_nil sNil)
  rcases leading with rfl | ⟨q, rfl⟩
  · exact ⟨units, rfl, split, nonempty⟩
  · exact ⟨units, rfl, split, nonempty⟩

end Rule

namespace Rule

/-- What the units of a list cut in `mode` are, with `cores` the units without the qualifiers
put in front. -/
structure Partition (mode : QualifierMode) (rules : List Rule) (cores units : List (List Rule)) :
    Prop where
  /-- The mode puts the qualifiers in front. -/
  leads : units = mode.withLeads (ownQualifier rules) cores
  nonempty : units ≠ []
  /-- Each unit without its qualifier is an alternative or the custom validator. -/
  form : ∀ core ∈ cores, Alternative {} core ∨ ∃ name, core = [.form (.validator name)]
  /-- Only the last unit can be the custom validator. -/
  validatorLast : ∀ core ∈ cores.dropLast, Alternative {} core
  noLeadingArgs : ∀ unit ∈ units, ∀ a rest, unit ≠ .args a :: rest
  /-- The units other than the validator are as many as the types, shapes and nested lists. -/
  countAlternatives :
    units.countP (fun unit => !unit.any isValidator) = rules.countP startsAlternative
  /-- In `include` mode the units make up the list again. -/
  includeFlatten : mode = .include → units.flatten = rules
  /-- In `exclude` mode they make up the list after its qualifier. -/
  excludeFlatten : mode = .exclude → units.flatten = afterQualifier rules
  /-- In `default q` mode the first unit has the list's own qualifier, or `q` when it has none,
  and every later unit has `q`. -/
  defaultLeads : ∀ q, mode = .default q → ∃ first more, cores = first :: more ∧
    units = (.qualifier ((ownQualifier rules).getD q) :: first) :: more.map (.qualifier q :: ·)

end Rule

namespace Typeset

/-- The split of a list typeset in a mode.  `subtypes` accepts every list that passes the shallow
grammar and cuts it into one unit or more, and stops at the end of the list: the position it
ends at is the list's length, where the next cut is empty.  The units partition the list
(`Rule.Partition`): each is an alternative or the custom validator, which can only come last,
with the qualifier the mode puts in front, so that nothing of the list is lost or read twice. -/
theorem subtypes_partition (rules : List Rule) (wellFormed : validate {} (.list rules) = .ok ())
    (mode : QualifierMode) :
    ∃ units cores, (Typeset.list rules).subtypes mode = .ok (units, rules.length) ∧
      (Rule.nextUnit rules rules.length mode).1 = [] ∧ Rule.Partition mode rules cores units := by
  obtain ⟨cores, rulesEq, split, nonempty⟩ := Rule.splits_afterQualifier wellFormed
  have leading : (Rule.ownQualifier rules).toList.map Rule.qualifier = [] ∨
      ∃ q, (Rule.ownQualifier rules).toList.map Rule.qualifier = [.qualifier q] := by
    cases Rule.ownQualifier rules <;> simp
  have cut := Rule.units_of_splits_mode leading split nonempty mode
  rw [← rulesEq] at cut
  have verified : (Typeset.list rules).verify {} = .ok () := by
    simp [verify, wellFormed, Except.mapError]
  have startsForm : ∀ unit ∈ mode.withLeads (Rule.ownQualifier rules) cores, ∀ a rest,
      unit ≠ .args a :: rest := by
    obtain ⟨first, more, rfl⟩ := List.exists_cons_of_ne_nil nonempty
    intro unit member a rest
    simp only [QualifierMode.withLeads, List.mem_cons, List.mem_map] at member
    rcases member with rfl | ⟨core, coreMember, rfl⟩
    · exact mode.lead_append_ne_args _ (split.startsForm_of_mem List.mem_cons_self) a rest
    · exact mode.lead_append_ne_args _
        (split.startsForm_of_mem (List.mem_cons_of_mem first coreMember)) a rest
  refine ⟨_, cores, by simp [subtypes, verified, cut], by simp [Rule.nextUnit],
    ⟨rfl, mode.withLeads_ne_nil _ nonempty, fun core member => split.unit_form member,
      fun core member => split.alternative_of_mem_dropLast member, startsForm, ?_, ?_, ?_, ?_⟩⟩
  · rw [QualifierMode.countP_withLeads, split.countP_alternatives]
    conv => rhs; rw [rulesEq]
    cases Rule.ownQualifier rules <;> simp [Rule.startsAlternative]
  · rintro rfl
    rw [QualifierMode.flatten_withLeads_include _ nonempty, split.flatten_eq]
    exact rulesEq.symm
  · rintro rfl
    rw [QualifierMode.withLeads_exclude, split.flatten_eq]
  · rintro q rfl
    obtain ⟨first, more, rfl⟩ := List.exists_cons_of_ne_nil nonempty
    exact ⟨first, more, rfl, by simp [QualifierMode.withLeads, QualifierMode.lead]⟩

/-- `["?", "string", {"min": 1}, "finite", ["boolean"]]` with the default qualifier `!`: the
first unit keeps `?`, the later ones get `!`. -/
theorem subtypes_partition_optionalStringFiniteList :
    let rules : List Rule := [.qualifier .optional, .form (.type .string),
      .args [("min", .data (.number (.int 1)))], .form (.type .finite),
      .form (.list [.form (.type .boolean)])]
    validate {} (.list rules) = .ok () ∧
      ∃ units cores, (Typeset.list rules).subtypes (.default .required) = .ok (units, 5) ∧
        (Rule.nextUnit rules 5 (.default .required)).1 = [] ∧
        Rule.Partition (.default .required) rules cores units :=
  ⟨rfl, subtypes_partition _ rfl _⟩

end Typeset

end Conformance
