import Conformance.Proofs.Subtypes

/-!
# The cursor law of a cut

`Rule.nextUnit` reads a list from a cursor, with no grammar check, and returns the next unit and
the cursor after it.  Past the end it returns nothing and leaves the cursor where it was.
Anywhere else it covers one to three elements (`Rule.Cut`): the qualifier standing at the
cursor, if any, then the element after it, if one remains, then the arguments object after that
element when the element is a type that takes arguments.  The mode only decides what is handed
back of the covered elements (`QualifierMode.unitOf`): all of them, all but their qualifier, or
all of them with a qualifier put in front where none stands.

Main statement: `Rule.nextUnit_cursorLaw`, from the step lemma `Rule.nextUnit_of_cut` and the
run lemma `Rule.unitsFrom_include`.  In `include` mode every cut before the end hands back what
it covers, so cutting from any cursor until the first empty unit returns units that make up the
list from that cursor on, in at most one call more than the elements left.
-/

namespace Conformance

namespace Rule

/-- A rule takes the arguments object after it: it is a type that takes arguments, and an
arguments object comes next. -/
def TakesArgsFrom (r : Rule) (rest : List Rule) : Prop :=
  ∃ t a more, r = .form (.type t) ∧ t.hasArgs = true ∧ rest = .args a :: more

/-- `Body s body`: `body` is the element at the front of `s` with the arguments object after it
when it takes one. -/
inductive Body : List Rule → List Rule → Prop
  | withArgs {t : TypeName} {a : Args} {more : List Rule} (takes : t.hasArgs = true) :
      Body (.form (.type t) :: .args a :: more) [.form (.type t), .args a]
  | alone {r : Rule} {rest : List Rule} (notTaking : ¬ r.TakesArgsFrom rest) :
      Body (r :: rest) [r]

/-- `Cut s span`: the next cut of a list whose elements from the cursor on are `s` covers the
elements `span` at the front of `s`: the qualifier there, if any, then the element after it
with the arguments object it takes, if an element remains. -/
inductive Cut : List Rule → List Rule → Prop
  | qualifierOnly (q : Qualifier) : Cut [.qualifier q] [.qualifier q]
  | qualified {q : Qualifier} {s body : List Rule} (next : Body s body) :
      Cut (.qualifier q :: s) (.qualifier q :: body)
  | bare {s body : List Rule} (unqualified : ownQualifier s = none) (next : Body s body) :
      Cut s body

theorem afterQualifier_eq_self {rules : List Rule} (unqualified : ownQualifier rules = none) :
    afterQualifier rules = rules := by
  rcases rules with _ | ⟨q | a | ts, rest⟩
  · rfl
  · cases unqualified
  · rfl
  · rfl

end Rule

namespace QualifierMode

/-- What a cut in this mode hands back of the elements `span` it covers: all of them in
`include` mode, all but their qualifier in `exclude` mode, and in `default q` mode all of them,
with `q` in front when they start with no qualifier. -/
def unitOf : QualifierMode → List Rule → List Rule
  | .include, span => span
  | .exclude, span => Rule.afterQualifier span
  | .default q, span => if (Rule.ownQualifier span).isSome then span else .qualifier q :: span

variable (mode : QualifierMode) {span : List Rule}

theorem unitOf_qualified (q : Qualifier) (body : List Rule) :
    mode.unitOf (.qualifier q :: body) = mode.lead (some q) ++ body := by
  cases mode <;> simp [unitOf, lead, Rule.ownQualifier, Rule.afterQualifier]

theorem unitOf_unqualified (unqualified : Rule.ownQualifier span = none) :
    mode.unitOf span = mode.lead none ++ span := by
  cases mode
  · rfl
  · exact Rule.afterQualifier_eq_self unqualified
  · simp [unitOf, lead, unqualified]

end QualifierMode

namespace Rule

/-! ### What a cut covers -/

section Cut

variable {s span : List Rule}

theorem Body.exists_cons (r : Rule) (rest : List Rule) : ∃ body, Body (r :: rest) body := by
  by_cases takes : r.TakesArgsFrom rest
  · obtain ⟨t, a, more, rfl, hasArgs, rfl⟩ := takes
    exact ⟨_, .withArgs hasArgs⟩
  · exact ⟨_, .alone takes⟩

theorem Body.prefix (body : Body s span) : span <+: s := by
  cases body with
  | withArgs => exact ⟨_, rfl⟩
  | alone => exact ⟨_, rfl⟩

theorem Body.length_mem (body : Body s span) : 1 ≤ span.length ∧ span.length ≤ 2 := by
  cases body <;> simp

theorem Body.ownQualifier_eq (body : Body s span) : ownQualifier span = ownQualifier s := by
  cases body with
  | withArgs => rfl
  | @alone r rest _ => cases r <;> rfl

theorem Body.unique {other : List Rule} (body : Body s span) (body' : Body s other) :
    span = other := by
  cases body with
  | withArgs takes =>
    cases body' with
    | withArgs => rfl
    | alone notTaking => exact absurd ⟨_, _, _, rfl, takes, rfl⟩ notTaking
  | alone notTaking =>
    cases body' with
    | withArgs takes => exact absurd ⟨_, _, _, rfl, takes, rfl⟩ notTaking
    | alone => rfl

theorem Cut.exists (nonempty : s ≠ []) : ∃ span, Cut s span := by
  obtain ⟨r, rest, rfl⟩ := List.exists_cons_of_ne_nil nonempty
  cases r with
  | qualifier q =>
    cases rest with
    | nil => exact ⟨_, .qualifierOnly q⟩
    | cons r rest =>
      obtain ⟨body, next⟩ := Body.exists_cons r rest
      exact ⟨_, .qualified next⟩
  | args a =>
    obtain ⟨body, next⟩ := Body.exists_cons (.args a) rest
    exact ⟨_, .bare rfl next⟩
  | form ts =>
    obtain ⟨body, next⟩ := Body.exists_cons (.form ts) rest
    exact ⟨_, .bare rfl next⟩

theorem Cut.unique {other : List Rule} (cut : Cut s span) (cut' : Cut s other) : span = other := by
  cases cut with
  | qualifierOnly q =>
    cases cut' with
    | qualifierOnly => rfl
    | qualified next => cases next
    | bare unqualified => cases unqualified
  | qualified next =>
    cases cut' with
    | qualifierOnly => cases next
    | qualified next' => rw [next.unique next']
    | bare unqualified => cases unqualified
  | bare unqualified next =>
    cases cut' with
    | qualifierOnly => cases unqualified
    | qualified => cases unqualified
    | bare _ next' => exact next.unique next'

theorem Cut.prefix (cut : Cut s span) : span <+: s := by
  cases cut with
  | qualifierOnly => exact List.prefix_rfl
  | qualified next => exact List.cons_prefix_cons.mpr ⟨rfl, next.prefix⟩
  | bare _ next => exact next.prefix

theorem Cut.length_mem (cut : Cut s span) : 1 ≤ span.length ∧ span.length ≤ 3 := by
  cases cut with
  | qualifierOnly => simp
  | qualified next => have := next.length_mem; simp only [List.length_cons]; omega
  | bare _ next => have := next.length_mem; omega

theorem Cut.within {rules : List Rule} {c : Nat} (cut : Cut (rules.drop c) span) :
    c + span.length ≤ rules.length ∧ rules.extract c (c + span.length) = span := by
  obtain ⟨rest, dropEq⟩ := cut.prefix
  constructor
  · -- the cut covers an element, so the cursor is before the end
    obtain ⟨atLeastOne, -⟩ := cut.length_mem
    have lengths := congrArg List.length dropEq
    simp only [List.length_drop, List.length_append] at lengths
    omega
  · rw [List.extract_eq_take_drop, ← dropEq]
    simp

end Cut

/-! ### One cut -/

theorem isQualifier_eq_false_of_ownQualifier {r : Rule} {rest : List Rule}
    (unqualified : ownQualifier (r :: rest) = none) : r.isQualifier = false := by
  cases r with
  | qualifier q => cases unqualified
  | args a => rfl
  | form ts => rfl

theorem nextUnit_of_length_le {rules : List Rule} {c : Nat} (past : rules.length ≤ c)
    (mode : QualifierMode) : nextUnit rules c mode = ([], c) := by
  simp [nextUnit, List.drop_eq_nil_of_le past]

/-- A cut from a cursor hands back what it covers as the mode gives it, and moves the cursor
past what it covers. -/
theorem nextUnit_of_cut {rules span : List Rule} {c : Nat} (cut : Cut (rules.drop c) span)
    (mode : QualifierMode) : nextUnit rules c mode = (mode.unitOf span, c + span.length) := by
  generalize drop : rules.drop c = s at cut
  cases cut with
  | qualifierOnly q =>
    cases mode <;> simp [nextUnit, drop, isQualifier, QualifierMode.unitOf, ownQualifier,
      afterQualifier]
  | qualified next =>
    rw [QualifierMode.unitOf_qualified]
    cases next with
    | withArgs takes =>
      cases mode <;> simp [nextUnit, drop, isQualifier, takes, QualifierMode.lead]
    | alone notTaking =>
      cases mode <;> simp [nextUnit, drop, isQualifier, QualifierMode.lead] <;> split <;>
        simp_all [TakesArgsFrom]
  | bare unqualified next =>
    rw [QualifierMode.unitOf_unqualified mode (next.ownQualifier_eq.trans unqualified)]
    cases next with
    | withArgs takes =>
      cases mode <;> simp [nextUnit, drop, isQualifier, takes, QualifierMode.lead]
    | alone notTaking =>
      have bare := isQualifier_eq_false_of_ownQualifier unqualified
      cases mode <;> simp [nextUnit, drop, bare, QualifierMode.lead] <;> split <;>
        simp_all [TakesArgsFrom]

theorem nextUnit_cut_exists {rules : List Rule} {c : Nat} (before : c < rules.length)
    (mode : QualifierMode) :
    ∃ span, Cut (rules.drop c) span ∧
      nextUnit rules c mode = (mode.unitOf span, c + span.length) := by
  have nonempty : rules.drop c ≠ [] := by simpa using before
  obtain ⟨span, cut⟩ := Cut.exists nonempty
  exact ⟨span, cut, nextUnit_of_cut cut mode⟩

theorem nextUnit_advances {rules : List Rule} {c : Nat} (before : c < rules.length)
    (mode : QualifierMode) :
    ∃ c', c < c' ∧ c' ≤ min (c + 3) rules.length ∧
      (∀ span, Cut (rules.drop c) span ↔ span = rules.extract c c') ∧
      nextUnit rules c mode = (mode.unitOf (rules.extract c c'), c') := by
  obtain ⟨span, cut, step⟩ := nextUnit_cut_exists before mode
  obtain ⟨atLeastOne, atMostThree⟩ := cut.length_mem
  obtain ⟨fits, extracted⟩ := cut.within
  refine ⟨c + span.length, by omega, by omega, ?_, ?_⟩ <;> rw [extracted]
  · intro other
    constructor
    · intro cut'
      exact (cut.unique cut').symm
    · rintro rfl
      exact cut
  · exact step

/-- In `exclude` mode a qualifier at the end is covered but not handed back: the cut is empty,
yet the cursor moves past it. -/
example : nextUnit [.form (.type .string), .qualifier .optional] 1 .exclude = ([], 2) := rfl

/-! ### Cutting until the first empty unit -/

/-- Cutting in `include` mode from any cursor, with fuel to spare, hands back units that make up
the list from the cursor on, none of them empty and no more of them than elements are left, and
stops at the end of the list, or at the cursor when it is past the end.  The induction is on the
fuel; each cut covers one element at least, which is what makes the fuel enough. -/
theorem unitsFrom_include {rules : List Rule} {c fuel : Nat} (enough : rules.length - c < fuel) :
    ∃ units, unitsFrom rules .include fuel c = (units, max c rules.length) ∧
      units.flatten = rules.drop c ∧ units.length ≤ rules.length - c ∧ [] ∉ units := by
  induction fuel generalizing c with
  | zero => omega
  | succ fuel ih =>
    by_cases before : c < rules.length
    · obtain ⟨span, cut, step⟩ := nextUnit_cut_exists before .include
      obtain ⟨rest, dropEq⟩ := cut.prefix
      obtain ⟨atLeastOne, -⟩ := cut.length_mem
      have fits := cut.within.1
      have spanNonempty : span ≠ [] := List.ne_nil_of_length_pos atLeastOne
      obtain ⟨more, moreEq, moreFlat, moreLength, moreNonempty⟩ :=
        ih (c := c + span.length) (by omega)
      refine ⟨span :: more, ?_, ?_, ?_, ?_⟩
      · simp only [unitsFrom, step, QualifierMode.unitOf,
          List.isEmpty_eq_false_iff.mpr spanNonempty, Bool.false_eq_true, if_false, moreEq,
          Nat.max_eq_right fits, Nat.max_eq_right (Nat.le_of_lt before)]
      · rw [List.flatten_cons, moreFlat, drop_after_unit dropEq.symm, dropEq]
      · simp only [List.length_cons]
        omega
      · simp only [List.mem_cons, not_or]
        exact ⟨spanNonempty.symm, moreNonempty⟩
    · have past : rules.length ≤ c := by omega
      refine ⟨[], ?_, ?_, by simp, by simp⟩
      · simp [unitsFrom, nextUnit_of_length_le past, Nat.max_eq_left past]
      · simp [List.drop_eq_nil_of_le past]

/-- The cursor law of a cut, in every mode, from every cursor and on every list, well formed or
not.  Past the end the cut is empty and the cursor stays.  Before it the cursor moves forward by
one to three, not past the end, over exactly the elements `Cut` describes: the qualifier at the
cursor, if one stands there, then the element after it, if one remains, then the arguments
object after that element when it is a type that takes arguments.  The cut hands these back as
the mode gives them (`QualifierMode.unitOf`).  So in `include` mode, cutting from any cursor
until the first empty unit makes one call per unit and one more, at most one more than the
elements left, and the units make up the list from the cursor on. -/
theorem nextUnit_cursorLaw (rules : List Rule) (c : Nat) (mode : QualifierMode) :
    (rules.length ≤ c → nextUnit rules c mode = ([], c)) ∧
    (c < rules.length → ∃ c', c < c' ∧ c' ≤ min (c + 3) rules.length ∧
      (∀ span, Cut (rules.drop c) span ↔ span = rules.extract c c') ∧
      nextUnit rules c mode = (mode.unitOf (rules.extract c c'), c')) ∧
    ∃ units, unitsFrom rules .include (rules.length - c + 1) c = (units, max c rules.length) ∧
      [] ∉ units ∧ (nextUnit rules (max c rules.length) .include).1 = [] ∧
      units.length + 1 ≤ rules.length - c + 1 ∧ units.flatten = rules.drop c := by
  refine ⟨fun past => nextUnit_of_length_le past mode,
    fun before => nextUnit_advances before mode, ?_⟩
  have run : ∃ units, unitsFrom rules .include (rules.length - c + 1) c =
      (units, max c rules.length) ∧ units.flatten = rules.drop c ∧
        units.length ≤ rules.length - c ∧ [] ∉ units :=
    unitsFrom_include (by omega)
  obtain ⟨units, cuts, flat, count, nonempty⟩ := run
  have ended : (nextUnit rules (max c rules.length) .include).1 = [] := by
    rw [nextUnit_of_length_le (Nat.le_max_right c rules.length)]
  exact ⟨units, cuts, nonempty, ended, by omega, flat⟩

end Rule

end Conformance
