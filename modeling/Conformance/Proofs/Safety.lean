import Conformance.Proofs.Normalization
import Mathlib.Logic.Basic
import Mathlib.Tactic.SplitIfs

/-!
# A well-formed typeset raises no programmer error

The errors a check can return fall in two groups.  Most say that the typeset or the context
handed to the engine is wrong: it breaks the grammar, names a type without a validator,
gives arguments to a type that takes none, or the context has no container.  Two depend on
the text of a pattern argument, which the grammar does not read: a pattern that is no
regular expression and flags that are no pattern flags.

With every standard validator registered, a consistent context and a typeset that passes
the deep grammar check, only the second group is left, at any depth.  The deep check covers
every typeset the engine reaches: the properties of a shape, the `$` of an object type,
and the `$`, `$keys` and `$values` a collection reads, which the engine looks up as the
grammar does, at their first entry.  Every context the engine derives has a container as
its parent, and every alternative it hands to `matchType` is one type with the arguments
that type takes.

A pattern error needs a pattern that fails to compile, and the engine compiles only the
patterns of the arguments it meets, all of which stand somewhere in the typeset
(`Typeset.everyArgs`).  So when every pattern of the typeset compiles, a check raises no error
at all (`Engine.checkIn_ok`).

The proof is by strong induction on the depth of the value: a validator's lemma takes the
safety of the checks of nested values as a hypothesis (`Check.RecurSafe`).
-/

namespace Conformance

namespace TypesetError

/-- An error that depends on the text of a pattern argument. -/
def isPattern : TypesetError → Bool
  | .invalidPattern _ | .invalidPatternFlags _ => true
  | _ => false

end TypesetError

namespace Args

/-- Whether the patterns among a type's arguments compile with their flags: a non-empty
`exp` with `expFlags`, as `string` reads them, and a non-empty `keyExp` with `keyFlags`, as
the keyed collections read them. -/
def patternsCompile (a : Args) : Bool :=
  ((nonEmptyString? a "exp").all fun exp =>
      (Check.compilePattern exp (nonEmptyString? a "expFlags")).isOk) &&
    (Check.keyPattern a).isOk

@[simp]
theorem patternsCompile_dollar (ts : Typeset) : patternsCompile [("$", .typeset ts)] = true := rfl

end Args

namespace Typeset

mutual

/-- Whether every arguments object of a typeset, at any depth, satisfies `p`. -/
def everyArgs (p : Args → Bool) : Typeset → Bool
  | .type _ => true
  | .validator _ => true
  | .shape props => shapeEveryArgs p props
  | .list rules => rulesEveryArgs p rules

/-- Whether every arguments object under the properties of a shape satisfies `p`. -/
def shapeEveryArgs (p : Args → Bool) : List (String × Option Typeset) → Bool
  | [] => true
  | (_, none) :: rest => shapeEveryArgs p rest
  | (_, some ts) :: rest => everyArgs p ts && shapeEveryArgs p rest

/-- Whether every arguments object among the rules of a list satisfies `p`. -/
def rulesEveryArgs (p : Args → Bool) : List Rule → Bool
  | [] => true
  | .qualifier _ :: rest => rulesEveryArgs p rest
  | .args entries :: rest => p entries && entriesEveryArgs p entries && rulesEveryArgs p rest
  | .form ts :: rest => everyArgs p ts && rulesEveryArgs p rest

/-- Whether every arguments object in the typesets of an arguments object satisfies `p`. -/
def entriesEveryArgs (p : Args → Bool) : List (String × Arg) → Bool
  | [] => true
  | (_, .typeset ts) :: rest => everyArgs p ts && entriesEveryArgs p rest
  | (_, .data _) :: rest => entriesEveryArgs p rest

end

@[simp]
theorem rulesEveryArgs_append (p : Args → Bool) (l₁ l₂ : List Rule) :
    rulesEveryArgs p (l₁ ++ l₂) = (rulesEveryArgs p l₁ && rulesEveryArgs p l₂) := by
  induction l₁ with
  | nil => simp [rulesEveryArgs]
  | cons r rest ih => cases r <;> simp [rulesEveryArgs, ih, Bool.and_assoc]

theorem entriesEveryArgs_typeset? {p : Args → Bool} {key : String} {ts : Typeset} :
    ∀ {entries : List (String × Arg)}, entriesEveryArgs p entries = true →
      Args.typeset? entries key = some ts → everyArgs p ts = true
  | [], _, found => by simp [Args.typeset?, Args.get?] at found
  | (k, a) :: rest, every, found => by
      by_cases here : k = key
      · subst here
        cases a with
        | typeset inner =>
            simp only [Args.typeset?, Args.get?, List.find?_cons, beq_self_eq_true,
              Option.map_some, Option.some.injEq] at found
            subst found
            simp only [entriesEveryArgs, Bool.and_eq_true] at every
            exact every.1
        | data j => simp [Args.typeset?, Args.get?] at found
      · have restEvery : entriesEveryArgs p rest = true := by
          cases a <;> simp_all [entriesEveryArgs]
        have restFound : Args.typeset? rest key = some ts := by
          simpa [Args.typeset?, Args.get?, List.find?_cons, here] using found
        exact entriesEveryArgs_typeset? restEvery restFound

end Typeset

namespace Typeset

theorem validateTypesetArg_typeset? {o : GrammarOptions} {t : TypeName} {key : String}
    {ts : Typeset} :
    ∀ {entries : List (String × Arg)}, validateTypesetArg o t key entries = .ok () →
      Args.typeset? entries key = some ts → validate o ts = .ok ()
  | [], _, found => by simp [Args.typeset?, Args.get?] at found
  | (k, a) :: rest, checked, found => by
      by_cases here : k = key
      · subst here
        cases a with
        | typeset inner =>
            simp only [Args.typeset?, Args.get?, List.find?_cons, beq_self_eq_true,
              Option.map_some, Option.some.injEq] at found
            subst found
            simpa [validateTypesetArg, Rule.nestAt_eq_ok] using checked
        | data j => simp [validateTypesetArg] at checked
      · have restChecked : validateTypesetArg o t key rest = .ok () := by
          rw [validateTypesetArg.eq_def] at checked
          simpa [here] using checked
        have restFound : Args.typeset? rest key = some ts := by
          simpa [Args.typeset?, Args.get?, List.find?_cons, here] using found
        exact validateTypesetArg_typeset? restChecked restFound

theorem validateShapeArg_shape? {o : GrammarOptions} {t : TypeName}
    {props : List (String × Option Typeset)} :
    ∀ {entries : List (String × Arg)}, validateShapeArg o t entries = .ok () →
      Args.shape? entries "$" = some props → validateShape o props = .ok ()
  | [], _, found => by simp [Args.shape?, Args.typeset?, Args.get?] at found
  | (k, a) :: rest, checked, found => by
      by_cases here : k = "$"
      · subst here
        cases a with
        | typeset inner =>
            cases inner with
            | shape shapeProps =>
                simp only [Args.shape?, Args.typeset?, Args.get?, List.find?_cons,
                  beq_self_eq_true, Option.map_some, Option.some.injEq] at found
                subst found
                simpa [validateShapeArg, Rule.nestAt_eq_ok] using checked
            | _ => simp [validateShapeArg] at checked
        | data j => simp [validateShapeArg] at checked
      · have restChecked : validateShapeArg o t rest = .ok () := by
          rw [validateShapeArg.eq_def] at checked
          simpa [here] using checked
        have restFound : Args.shape? rest "$" = some props := by
          simpa [Args.shape?, Args.typeset?, Args.get?, List.find?_cons, here] using found
        exact validateShapeArg_shape? restChecked restFound

theorem validateShape_cons_some {o : GrammarOptions} {k : String} {ts : Typeset}
    {rest : List (String × Option Typeset)} (checked : validateShape o ((k, some ts) :: rest) = .ok ()) :
    validate o ts = .ok () ∧ validateShape o rest = .ok () := by
  rw [validateShape.eq_def] at checked
  simp only at checked
  split at checked
  · cases checked
  · rename_i nested
    exact ⟨Rule.nestAt_eq_ok.mp nested, checked⟩

theorem validateRules_shallow_of_deep {qualified : Bool} {length : Nat} :
    ∀ {rules : List Rule} {i : Nat} {scope : ArgsScope} {count : Nat} {validatorAt : Option Nat},
      validateRules { deep := true } qualified length i scope count validatorAt rules = .ok () →
        validateRules {} qualified length i scope count validatorAt rules = .ok ()
  | [], _, _, _, _, walked => by
      rw [validateRules.eq_def] at walked ⊢
      exact walked
  | r :: rest, i, scope, count, validatorAt, walked => by
      rw [validateRules.eq_def] at walked ⊢
      cases validatorAt with
      | some j => simp at walked
      | none =>
          cases r with
          | qualifier q =>
              simp only at walked ⊢
              by_cases misplaced : (i != 0) = true
              · simp [misplaced] at walked
              · simp only [misplaced, Bool.false_eq_true, if_false] at walked ⊢
                exact validateRules_shallow_of_deep walked
          | args entries =>
              cases scope with
              | type t typed =>
                  cases typed with
                  | false =>
                      simp only at walked ⊢
                      by_cases takesArgs : t.hasArgs = true
                      · simp only [takesArgs, Bool.not_true, Bool.false_eq_true, if_false,
                          Bool.not_false, if_true] at walked ⊢
                        split at walked
                        · cases walked
                        · exact validateRules_shallow_of_deep walked
                      · simp [takesArgs] at walked
                  | true => simp at walked
              | none => simp at walked
              | implied => simp at walked
          | form ts =>
              cases ts with
              | type t => exact validateRules_shallow_of_deep walked
              | validator name => exact validateRules_shallow_of_deep walked
              | shape props =>
                  simp only at walked ⊢
                  by_cases misplaced : (!(i == 0 || (i == 1 && qualified))) = true
                  · simp [misplaced] at walked
                  · simp only [misplaced, Bool.false_eq_true, if_false, if_true] at walked ⊢
                    split at walked
                    · cases walked
                    · exact validateRules_shallow_of_deep walked
              | list inner =>
                  simp only [Bool.false_eq_true, if_false, Bool.not_false, if_true,
                    Bool.not_true] at walked ⊢
                  split at walked
                  · cases walked
                  · exact validateRules_shallow_of_deep walked

theorem validate_shallow_of_deep {ts : Typeset} (deepValid : validate { deep := true } ts = .ok ()) :
    validate {} ts = .ok () := by
  cases ts with
  | list rules =>
      rw [validate.eq_def] at deepValid ⊢
      simp only at deepValid ⊢
      split at deepValid
      · cases deepValid
      · rename_i opened
        have sameOpening : listOpening {} rules = listOpening { deep := true } rules := by
          cases rules <;> rfl
        rw [sameOpening, opened]
        exact validateRules_shallow_of_deep deepValid
  | _ => rfl

end Typeset

namespace Context

theorem validate_derive {c : Context} {parent : Value} (objectLike : parent.isObjectLike = true)
    (key : Option ParentKey) : (c.derive parent key).validate = .ok () := by
  simp [derive, validate, objectLike]

end Context

namespace Rule

theorem Splits.alternative_of_mem {o : GrammarOptions} {s unit : List Rule}
    {units : List (List Rule)} (split : Splits o s units) (member : unit ∈ units)
    (notValidator : isValidatorUnit unit = false) : Alternative o unit := by
  induction split with
  | nil => cases member
  | validator name =>
      rw [List.mem_singleton] at member
      subst member
      cases notValidator
  | cons alt _ restAlternative =>
      rcases List.mem_cons.mp member with here | later
      · exact here ▸ alt
      · exact restAlternative later

theorem Splits.rulesEveryArgs {o : GrammarOptions} {p : Args → Bool} {s : List Rule}
    {units : List (List Rule)} (split : Splits o s units)
    (every : Typeset.rulesEveryArgs p s = true) :
    ∀ unit ∈ units, Typeset.rulesEveryArgs p unit = true := by
  induction split with
  | nil => intro unit member; cases member
  | validator name =>
      intro unit member
      rw [List.mem_singleton] at member
      subst member
      exact every
  | cons alt _ restEvery =>
      rw [Typeset.rulesEveryArgs_append, Bool.and_eq_true] at every
      intro unit member
      rcases List.mem_cons.mp member with here | later
      · exact here ▸ every.1
      · exact restEvery every.2 unit later

end Rule

namespace Check

/-- A verdict, or an error raised by a pattern argument; such an error needs a pattern that
fails to compile, so there is none when `compiles` holds. -/
def Safe {α : Type} (compiles : Prop) (r : Except TypesetError α) : Prop :=
  ∀ err, r = .error err → err.isPattern = true ∧ ¬compiles

@[simp]
theorem safe_ok {α : Type} {c : Prop} (a : α) : Safe c (.ok a : Except TypesetError α) := by
  intro err raised
  cases raised

@[simp]
theorem safe_error {α : Type} {c : Prop} {err : TypesetError} :
    Safe c (.error err : Except TypesetError α) ↔ err.isPattern = true ∧ ¬c :=
  ⟨fun safe => safe err rfl, fun pattern _ raised => by cases raised; exact pattern⟩

theorem Safe.of_pattern {α : Type} {c : Prop} {r : Except TypesetError α}
    (pattern : ∀ err, r = .error err → err.isPattern = true) (settles : c → r.isOk = true) :
    Safe c r := by
  intro err raised
  refine ⟨pattern err raised, fun holds => ?_⟩
  have settled := settles holds
  simp [raised, Except.isOk, Except.toBool] at settled

theorem Safe.mono {α : Type} {c c' : Prop} {r : Except TypesetError α} (safe : Safe c r)
    (stronger : c' → c) : Safe c' r := by
  intro err raised
  obtain ⟨pattern, fails⟩ := safe err raised
  exact ⟨pattern, fun holds => fails (stronger holds)⟩

theorem Safe.ok_of {α : Type} {c : Prop} {r : Except TypesetError α} (safe : Safe c r)
    (holds : c) : ∃ a, r = .ok a := by
  cases r with
  | error err => exact absurd holds (safe err rfl).2
  | ok a => exact ⟨a, rfl⟩

theorem Safe.map {α β : Type} {c : Prop} {r : Except TypesetError α} (safe : Safe c r)
    (f : α → β) : Safe c (r.map f) := by
  intro err raised
  cases r with
  | error e =>
      have same : e = err := by simpa [Except.map] using raised
      subst same
      exact safe e rfl
  | ok a => cases raised

/-- The arguments a validator is given: none, or arguments its type takes whose nested
typesets pass the deep grammar check, and whose patterns, at any depth, compile when
`compiles` holds. -/
def ArgsFit (compiles : Prop) (t : TypeName) : Option Args → Prop
  | none => True
  | some a => t.hasArgs = true ∧ Rule.ArgsSound { deep := true } t a ∧
      (compiles → Args.patternsCompile a = true ∧
        Typeset.entriesEveryArgs Args.patternsCompile a = true)

section Reports

variable {c : Prop} {t : TypeName} {args : Option Args}

theorem typesetOf_ok_of_takes (takes : ∀ a, args = some a → t.hasArgs = true)
    (q : Option Qualifier) (fullyQualified : Bool) :
    ∃ ts, typesetOf t q args fullyQualified = .ok ts := by
  cases args with
  | none =>
      simp only [typesetOf, Option.isSome_none, Bool.false_and, Bool.false_eq_true, if_false]
      split <;> exact ⟨_, rfl⟩
  | some a =>
      simp only [typesetOf, Option.isSome_some, takes a rfl, Bool.not_true, Bool.and_false,
        Bool.false_eq_true, if_false]
      split <;> exact ⟨_, rfl⟩

theorem ArgsFit.takes (fit : ArgsFit c t args) : ∀ a, args = some a → t.hasArgs = true := by
  rintro a rfl
  exact fit.1

theorem typesetOf_ok (fit : ArgsFit c t args) (q : Option Qualifier) (fullyQualified : Bool) :
    ∃ ts, typesetOf t q args fullyQualified = .ok ts :=
  typesetOf_ok_of_takes fit.takes q fullyQualified

theorem mismatchAt_ok_of_takes {v : Value} {q : Qualifier}
    (takes : ∀ a, args = some a → t.hasArgs = true) (path : List String) :
    ∃ m, mismatchAt v t q args path = .ok m := by
  obtain ⟨ts, shortest⟩ := typesetOf_ok_of_takes takes (some q) false
  obtain ⟨fq, full⟩ := typesetOf_ok_of_takes takes (some q) true
  refine ⟨{ value := v, typeset := ts, path, mismatch := fq }, ?_⟩
  simp only [mismatchAt, shortest, full]
  rfl

theorem mismatchAt_ok {v : Value} {q : Qualifier} (fit : ArgsFit c t args) (path : List String) :
    ∃ m, mismatchAt v t q args path = .ok m :=
  mismatchAt_ok_of_takes fit.takes path

theorem mismatch_safe {v : Value} {q : Qualifier} (fit : ArgsFit c t args) :
    Safe c (mismatch v t q args) := by
  obtain ⟨m, reported⟩ := mismatchAt_ok (v := v) (q := q) fit []
  simp [mismatch, reported, Except.map]

theorem childFailure_safe {v : Value} {q : Qualifier} (fit : ArgsFit c t args) (segment : String)
    (child : Mismatch) : Safe c (childFailure v t q args segment child) := by
  obtain ⟨ts, written⟩ := typesetOf_ok fit (some q) false
  simp [childFailure, written, Except.map]

end Reports

theorem compilePattern_safe (pattern : String) (flags : Option String) :
    Safe ((compilePattern pattern flags).isOk = true) (compilePattern pattern flags) := by
  refine Safe.of_pattern (fun err raised => ?_) id
  simp only [compilePattern] at raised
  split at raised
  · cases raised
    rfl
  · split at raised
    · cases raised
    · cases raised
      rfl

theorem keyPattern_safe (args : Args) :
    Safe (Args.patternsCompile args = true) (keyPattern args) := by
  refine Safe.of_pattern (fun err raised => ?_) fun compiles => ?_
  · unfold keyPattern at raised
    split at raised
    · rename_i exp _
      cases compiled : compilePattern exp (Args.nonEmptyString? args "keyFlags") with
      | error e =>
          simp only [compiled, Except.map, Except.error.injEq] at raised
          subst raised
          exact ((compilePattern_safe _ _) e compiled).1
      | ok re => simp [compiled, Except.map] at raised
    · cases raised
  · simp only [Args.patternsCompile, Bool.and_eq_true] at compiles
    exact compiles.2

theorem typesetArg_deep {t : TypeName} {a : Args} {key : String} {ts : Typeset}
    (sound : Rule.ArgsSound { deep := true } t a) (collection : t.isObjectType = false)
    (named : key ∈ Typeset.typesetArgNames t) (found : typesetArg a key = some ts) :
    Typeset.validate { deep := true } ts = .ok () := by
  have checked := sound rfl
  simp only [collection, Bool.false_eq_true, if_false] at checked
  exact Typeset.validateTypesetArg_typeset? (checked key named)
    (Option.eq_some_of_filter_eq_some found)

theorem typesetArg_compiles {c : Prop} {t : TypeName} {a : Args} {key : String} {ts : Typeset}
    (fit : ArgsFit c t (some a)) (found : typesetArg a key = some ts) :
    c → Typeset.everyArgs Args.patternsCompile ts = true := fun holds =>
  Typeset.entriesEveryArgs_typeset? (fit.2.2 holds).2 (Option.eq_some_of_filter_eq_some found)

theorem ArgsFit.shape {c : Prop} {t : TypeName} {a : Args} {s : List (String × Option Typeset)}
    (objectType : t.isObjectType = true) (fit : ArgsFit c t (some a))
    (found : Args.shape? a "$" = some s) :
    Typeset.validateShape { deep := true } s = .ok () ∧
      (c → Typeset.shapeEveryArgs Args.patternsCompile s = true) := by
  have sound := fit.2.1 rfl
  simp only [objectType, if_true] at sound
  have typesetFound : Args.typeset? a "$" = some (.shape s) := by
    unfold Args.shape? at found
    split at found
    · cases found
      assumption
    · cases found
  exact ⟨Typeset.validateShapeArg_shape? sound found, fun holds =>
    Typeset.entriesEveryArgs_typeset? (fit.2.2 holds).2 typesetFound⟩

/-- The checks of values nested below `v` are safe, in consistent contexts and against
typesets that pass the deep grammar check: they raise no error when every pattern of the
typeset compiles. -/
def RecurSafe (recur : Recur) (v : Value) : Prop :=
  ∀ x, x.depth < v.depth → ∀ ts ctx, ctx.validate = .ok () →
    Typeset.validate { deep := true } ts = .ok () →
      Safe (Typeset.everyArgs Args.patternsCompile ts = true) (recur x ts ctx)

theorem firstMatch_safe {c : Prop} {attempt : List Rule → Except TypesetError Verdict} :
    ∀ {units : List (List Rule)}, (∀ unit ∈ units, Safe c (attempt unit)) →
      Safe c (firstMatch attempt units)
  | [], _ => safe_ok _
  | unit :: rest, safe => by
      simp only [firstMatch]
      split
      · rename_i err raised
        exact safe_error.mpr (safe unit List.mem_cons_self err raised)
      · exact safe_ok _
      · exact (firstMatch_safe fun later member => safe later (List.mem_cons_of_mem _ member)).map _

theorem childThen_safe {c : Prop} {r : Except TypesetError Verdict}
    {next : Value → Except TypesetError Verdict} {fail : Mismatch → Except TypesetError Verdict}
    (child : Safe c r) (rest : ∀ mvv, Safe c (next mvv)) (failed : ∀ m, Safe c (fail m)) :
    Safe c (childThen r next fail) := by
  cases r with
  | error err => exact child
  | ok verdict =>
      cases verdict with
      | success mvv => exact rest mvv
      | failure m => exact failed m

theorem optionalThen_safe {c : Prop} {r : Except TypesetError (Except Mismatch Value)}
    {next : Value → Except TypesetError Verdict} {fail : Mismatch → Except TypesetError Verdict}
    (child : Safe c r) (rest : ∀ mvv, Safe c (next mvv)) (failed : ∀ m, Safe c (fail m)) :
    Safe c (optionalThen r next fail) := by
  cases r with
  | error err =>
      intro e raised
      cases raised
      exact child err rfl
  | ok checked =>
      cases checked with
      | ok mvv => exact rest mvv
      | error m => exact failed m

section Loops

variable {c : Prop} {recur : Recur} {ctx : Context} {q : Qualifier}

theorem checkElements_safe {arr : Value} {ts : Typeset} {t : TypeName} {args : Option Args}
    (recurSafe : RecurSafe recur arr) (objectLike : arr.isObjectLike = true)
    (deepValid : Typeset.validate { deep := true } ts = .ok ())
    (compiles : c → Typeset.everyArgs Args.patternsCompile ts = true) (fit : ArgsFit c t args) :
    ∀ {i : Nat} {acc items : List Value}, (∀ x ∈ items, x.depth < arr.depth) →
      Safe c (checkElements recur arr ts ctx t q args i acc items)
  | _, _, [], _ => safe_ok _
  | i, acc, x :: rest, below => by
      have childSafe := (recurSafe x (below x List.mem_cons_self) ts
        (ctx.derive arr (some (.index i))) (Context.validate_derive objectLike _) deepValid).mono
        compiles
      have restBelow : ∀ y ∈ rest, y.depth < arr.depth :=
        fun y member => below y (List.mem_cons_of_mem x member)
      simp only [checkElements]
      exact childThen_safe childSafe
        (fun _ => checkElements_safe recurSafe objectLike deepValid compiles fit restBelow)
        (fun m => childFailure_safe fit _ m)

theorem checkShape_safe {v : Value} {shape : List (String × Option Typeset)}
    (recurSafe : RecurSafe recur v) (objectLike : v.isObjectLike = true) :
    ∀ {acc : List (String × Value)} {rest : List (String × Option Typeset)},
      Typeset.validateShape { deep := true } rest = .ok () →
        (c → Typeset.shapeEveryArgs Args.patternsCompile rest = true) →
          Safe c (checkShape recur v shape ctx acc rest)
  | _, [], _, _ => safe_ok _
  | acc, (k, none) :: rest, checked, compiles => by
      rw [Typeset.validateShape.eq_def] at checked
      simp only [checkShape]
      exact checkShape_safe recurSafe objectLike checked fun holds => by
        simpa [Typeset.shapeEveryArgs] using compiles holds
  | acc, (k, some ts) :: rest, checked, compiles => by
      obtain ⟨tsValid, restChecked⟩ := Typeset.validateShape_cons_some checked
      have propCompiles : c → Typeset.everyArgs Args.patternsCompile ts = true ∧
          Typeset.shapeEveryArgs Args.patternsCompile rest = true := fun holds => by
        simpa [Typeset.shapeEveryArgs] using compiles holds
      have childSafe := (recurSafe _ (depth_shapeChild_lt objectLike k) ts
        (ctx.derive v (some (.prop k))) (Context.validate_derive objectLike _) tsValid).mono
        fun holds => (propCompiles holds).1
      simp only [checkShape]
      exact childThen_safe childSafe
        (fun _ => checkShape_safe recurSafe objectLike restChecked fun holds =>
          (propCompiles holds).2)
        (fun _ => safe_ok _)

theorem checkMembers_safe {v : Value} {args : Args} {ts : Typeset}
    (recurSafe : RecurSafe recur v) (objectLike : v.isObjectLike = true)
    (deepValid : Typeset.validate { deep := true } ts = .ok ())
    (compiles : c → Typeset.everyArgs Args.patternsCompile ts = true)
    (fit : ArgsFit c .set (some args)) :
    ∀ {acc items : List Value}, (∀ x ∈ items, x.depth < v.depth) →
      Safe c (checkMembers recur v q args ts ctx acc items)
  | _, [], _ => safe_ok _
  | acc, x :: rest, below => by
      have childSafe := (recurSafe x (below x List.mem_cons_self) ts (ctx.derive v none)
        (Context.validate_derive objectLike _) deepValid).mono compiles
      have restBelow : ∀ y ∈ rest, y.depth < v.depth :=
        fun y member => below y (List.mem_cons_of_mem x member)
      simp only [checkMembers]
      exact childThen_safe childSafe
        (fun _ => checkMembers_safe recurSafe objectLike deepValid compiles fit restBelow)
        (fun m => childFailure_safe fit _ m)

theorem checkDictionaryValue_safe {args : Args} {ts : Typeset} {child : Value} {cctx : Context}
    (firstSafe : Safe c (recur child ts cctx))
    (retrySafe : Safe c (recur child (.list [.qualifier q, .form (.type .hashMap), .args args]) cctx)) :
    Safe c (checkDictionaryValue recur q args ts child cctx) := by
  unfold checkDictionaryValue
  split
  · rename_i err raised
    exact safe_error.mpr (firstSafe err raised)
  · -- with deep, a failing value is checked again against the whole hashMap
    split
    · exact retrySafe
    · exact safe_ok _
  · exact safe_ok _

theorem checkDictionary_safe {v : Value} {args : Args} {keyExp : Option Pattern.Compiled}
    {valuesTs : Option Typeset} (recurSafe : RecurSafe recur v) (objectLike : v.isObjectLike = true)
    (valuesValid : ∀ ts, valuesTs = some ts → Typeset.validate { deep := true } ts = .ok ())
    (valuesCompile : ∀ ts, valuesTs = some ts → c → Typeset.everyArgs Args.patternsCompile ts = true)
    (retryValid : Typeset.validate { deep := true }
      (.list [.qualifier q, .form (.type .hashMap), .args args]) = .ok ())
    (retryCompiles : c → Typeset.everyArgs Args.patternsCompile
      (.list [.qualifier q, .form (.type .hashMap), .args args]) = true)
    (fit : ArgsFit c .hashMap (some args)) :
    ∀ {acc props : List (String × Value)}, (∀ k x, (k, x) ∈ props → x.depth < v.depth) →
      Safe c (checkDictionary recur v q args keyExp valuesTs ctx acc props)
  | _, [], _ => safe_ok _
  | acc, (k, child) :: rest, below => by
      have restBelow : ∀ k' x, (k', x) ∈ rest → x.depth < v.depth :=
        fun k' x member => below k' x (List.mem_cons_of_mem _ member)
      simp only [checkDictionary]
      split
      · -- a key that the key pattern refuses
        obtain ⟨m, reported⟩ := mismatchAt_ok (v := v) (q := q) fit [keySegment "key" (.string k)]
        simp [reported, Except.map]
      · cases valuesTs with
        | none =>
            exact checkDictionary_safe recurSafe objectLike valuesValid valuesCompile retryValid
              retryCompiles fit restBelow
        | some ts =>
            have childBelow := below k child List.mem_cons_self
            have derived := Context.validate_derive (c := ctx) objectLike (some (.prop k))
            have valueSafe := checkDictionaryValue_safe
              ((recurSafe child childBelow ts _ derived (valuesValid ts rfl)).mono
                (valuesCompile ts rfl))
              ((recurSafe child childBelow _ _ derived retryValid).mono retryCompiles)
            exact childThen_safe valueSafe
              (fun _ => checkDictionary_safe recurSafe objectLike valuesValid valuesCompile
                retryValid retryCompiles fit restBelow)
              (fun _ => childFailure_safe fit _ _)

theorem checkOptional_safe {ts? : Option Typeset} {x : Value} {cctx : Context}
    (safe : ∀ ts, ts? = some ts → Safe c (recur x ts cctx)) :
    Safe c (checkOptional recur ts? x cctx) := by
  unfold checkOptional
  split
  · rename_i ts
    split
    · rename_i err raised
      exact safe_error.mpr (safe ts rfl err raised)
    · exact safe_ok _
    · exact safe_ok _
  · exact safe_ok _

theorem checkEntries_safe {v : Value} {args : Args} {keysTs valuesTs : Option Typeset}
    {keyExp : Option Pattern.Compiled} (recurSafe : RecurSafe recur v)
    (objectLike : v.isObjectLike = true)
    (keysValid : ∀ ts, keysTs = some ts → Typeset.validate { deep := true } ts = .ok ())
    (keysCompile : ∀ ts, keysTs = some ts → c → Typeset.everyArgs Args.patternsCompile ts = true)
    (valuesValid : ∀ ts, valuesTs = some ts → Typeset.validate { deep := true } ts = .ok ())
    (valuesCompile : ∀ ts, valuesTs = some ts → c → Typeset.everyArgs Args.patternsCompile ts = true)
    (fit : ArgsFit c .map (some args)) :
    ∀ {acc entries : List (Value × Value)},
      (∀ key x, (key, x) ∈ entries → key.depth < v.depth ∧ x.depth < v.depth) →
        Safe c (checkEntries recur v q args keysTs keyExp valuesTs ctx acc entries)
  | _, [], _ => safe_ok _
  | acc, (key, child) :: rest, below => by
      have restBelow : ∀ key' x, (key', x) ∈ rest → key'.depth < v.depth ∧ x.depth < v.depth :=
        fun key' x member => below key' x (List.mem_cons_of_mem _ member)
      have ⟨keyBelow, childBelow⟩ := below key child List.mem_cons_self
      have keyStep : ∀ ts, keysTs = some ts → Safe c (recur key ts (ctx.derive v none)) :=
        fun ts found => (recurSafe key keyBelow ts _
          (Context.validate_derive objectLike none) (keysValid ts found)).mono (keysCompile ts found)
      have valueStep : ∀ ts, valuesTs = some ts →
          Safe c (recur child ts (ctx.derive v (some (.key key)))) :=
        fun ts found => (recurSafe child childBelow ts _
          (Context.validate_derive objectLike _) (valuesValid ts found)).mono
          (valuesCompile ts found)
      simp only [checkEntries]
      refine optionalThen_safe (checkOptional_safe keyStep) (fun _ => ?_)
        (fun _ => childFailure_safe fit _ _)
      by_cases refused : refusesKey keyExp key = true
      · rw [if_pos refused]
        obtain ⟨m, reported⟩ := mismatchAt_ok (v := v) (q := q) fit [keySegment "key" key]
        simp [reported, Except.map]
      · rw [if_neg refused]
        exact optionalThen_safe (checkOptional_safe valueStep)
          (fun _ => checkEntries_safe recurSafe objectLike keysValid keysCompile valuesValid
            valuesCompile fit restBelow)
          (fun _ => childFailure_safe fit _ _)

end Loops

theorem validate_hashMapRetry {a : Args} (sound : Rule.ArgsSound { deep := true } .hashMap a)
    (q : Qualifier) :
    Typeset.validate { deep := true } (.list [.qualifier q, .form (.type .hashMap), .args a]) =
      .ok () := by
  have checked := sound rfl
  simp only [TypeName.isObjectType, Bool.false_eq_true, if_false, Typeset.typesetArgNames,
    List.mem_singleton, forall_eq] at checked
  simp [Typeset.validate, Typeset.listOpening, Typeset.validateRules, Typeset.listClosing,
    Rule.isQualifier, TypeName.hasArgs, TypeName.isObjectType, Typeset.typesetArgNames,
    checked, Typeset.nestAt, Except.mapError]

theorem everyArgs_hashMapRetry (p : Args → Bool) (a : Args) (q : Qualifier) :
    Typeset.everyArgs p (.list [.qualifier q, .form (.type .hashMap), .args a]) =
      (p a && Typeset.entriesEveryArgs p a) := by
  simp [Typeset.everyArgs, Typeset.rulesEveryArgs]

section Validators

variable {c : Prop} {recur : Recur} {v : Value} {q : Qualifier} {args : Option Args}
  {ctx : Context}

theorem validateArray_safe (recurSafe : RecurSafe recur v) (fit : ArgsFit c .array args) :
    Safe c (validateArray recur v q args ctx) := by
  unfold validateArray
  split
  · exact safe_ok _
  · cases v with
    | array items =>
        cases args with
        | none => exact safe_ok _
        | some a =>
            simp only
            split_ifs
            · exact mismatch_safe fit
            · cases found : typesetArg a "$" with
              | none => exact safe_ok _
              | some ts =>
                  exact checkElements_safe recurSafe rfl
                    (typesetArg_deep fit.2.1 rfl (by simp [Typeset.typesetArgNames]) found)
                    (typesetArg_compiles fit found) fit
                    fun x member => Value.depth_lt_of_mem_array member
    | _ => exact mismatch_safe fit

theorem validateSet_safe (recurSafe : RecurSafe recur v) (fit : ArgsFit c .set args) :
    Safe c (validateSet recur v q args ctx) := by
  unfold validateSet
  split
  · exact safe_ok _
  · cases v with
    | set items =>
        cases args with
        | none => exact safe_ok _
        | some a =>
            simp only
            split
            · exact mismatch_safe fit
            · cases found : typesetArg a "$values" with
              | none => exact safe_ok _
              | some ts =>
                  exact checkMembers_safe recurSafe rfl
                    (typesetArg_deep fit.2.1 rfl (by simp [Typeset.typesetArgNames]) found)
                    (typesetArg_compiles fit found) fit
                    fun x member => Value.depth_lt_of_mem_set member
    | _ => exact mismatch_safe fit

theorem validateHashMap_safe (recurSafe : RecurSafe recur v) (fit : ArgsFit c .hashMap args) :
    Safe c (validateHashMap recur v q args ctx) := by
  unfold validateHashMap
  split
  · exact safe_ok _
  · cases v with
    | object cls props =>
        cases args with
        | none => exact safe_ok _
        | some a =>
            simp only
            split
            · exact mismatch_safe fit
            · have keysSafe : Safe c (keyPattern a) :=
                (keyPattern_safe a).mono fun holds => (fit.2.2 holds).1
              cases keys : keyPattern a with
              | error err => simpa using keysSafe err keys
              | ok keyExp =>
                  simp only
                  split
                  · exact safe_ok _
                  · exact checkDictionary_safe recurSafe rfl
                      (fun ts found => typesetArg_deep fit.2.1 rfl
                        (by simp [Typeset.typesetArgNames]) found)
                      (fun ts found => typesetArg_compiles fit found)
                      (validate_hashMapRetry fit.2.1 q)
                      (fun holds => by
                        rw [everyArgs_hashMapRetry, Bool.and_eq_true]
                        exact fit.2.2 holds)
                      fit fun k x member => Value.depth_lt_of_mem_object member
    | _ => exact mismatch_safe fit

theorem validateMap_safe (recurSafe : RecurSafe recur v) (fit : ArgsFit c .map args) :
    Safe c (validateMap recur v q args ctx) := by
  unfold validateMap
  split
  · exact safe_ok _
  · cases v with
    | map entries =>
        cases args with
        | none => exact safe_ok _
        | some a =>
            have typesetValid : ∀ key ∈ Typeset.typesetArgNames .map, ∀ ts,
                typesetArg a key = some ts → Typeset.validate { deep := true } ts = .ok () :=
              fun key named ts found => typesetArg_deep fit.2.1 rfl named found
            have keyExpSafe : Safe c (if (typesetArg a "$keys").all isStringTypeset then keyPattern a
                else .ok none) := by
              split
              · exact (keyPattern_safe a).mono fun holds => (fit.2.2 holds).1
              · exact safe_ok none
            simp only
            split
            · exact mismatch_safe fit
            · split
              · rename_i err raised
                exact safe_error.mpr (keyExpSafe err raised)
              · split
                · exact safe_ok _
                · exact checkEntries_safe recurSafe rfl
                    (typesetValid "$keys" (by simp [Typeset.typesetArgNames]))
                    (fun ts found => typesetArg_compiles fit found)
                    (typesetValid "$values" (by simp [Typeset.typesetArgNames]))
                    (fun ts found => typesetArg_compiles fit found) fit
                    fun key x member => Value.depth_lt_of_mem_map member
    | _ => exact mismatch_safe fit

theorem validateObject_safe {t : TypeName} (objectType : t.isObjectType = true)
    (recurSafe : RecurSafe recur v) (fit : ArgsFit c t args) :
    Safe c (validateObject recur t v q args ctx) := by
  unfold validateObject
  split
  · exact safe_ok _
  · -- the refusal's condition holds a test of its own, so the outer test is taken apart whole
    simp only
    rw [apply_ite (Safe c), ite_prop_iff_and]
    refine ⟨fun _ => ?_, fun refused => ?_⟩
    · obtain ⟨m, reported⟩ := mismatchAt_ok (v := v) (q := q) fit []
      simp [reported]
    · have inst : isInstance t v args = true := by
        cases known : isInstance t v args with
        | true => rfl
        | false => simp [known] at refused
      cases args with
      | none => exact safe_ok _
      | some a =>
          cases found : Args.shape? a "$" with
          | none => simp [found]
          | some s =>
              obtain ⟨shapeValid, shapeCompiles⟩ := fit.shape objectType found
              have shapeSafe : Safe c (checkShape recur v s ctx [] s) :=
                checkShape_safe recurSafe (isObjectLike_of_isInstance objectType inst) shapeValid
                  shapeCompiles
              simpa [found] using shapeSafe

theorem stringMeets_safe (s : String) (q : Qualifier) (a : Args) :
    Safe (Args.patternsCompile a = true) (stringMeets s q a) := by
  unfold stringMeets
  split
  · exact safe_ok _
  · split
    · rename_i exp found
      have compiled : Safe (Args.patternsCompile a = true)
          (compilePattern exp (Args.nonEmptyString? a "expFlags")) :=
        (compilePattern_safe _ _).mono fun compiles => by
          simp only [Args.patternsCompile, found, Option.all_some, Bool.and_eq_true] at compiles
          exact compiles.1
      exact compiled.map _
    · simp only
      split_ifs <;> exact safe_ok _

theorem validateString_safe (fit : ArgsFit c .string args) : Safe c (validateString v q args) := by
  unfold validateString
  split
  · exact safe_ok _
  · simp only
    split
    · rename_i err raised
      cases v with
      | string s =>
          cases args with
          | none => cases raised
          | some a =>
              exact safe_error.mpr ((stringMeets_safe s q a).mono
                (fun holds => (fit.2.2 holds).1) err raised)
      | _ => cases raised
    · exact safe_ok _
    · exact mismatch_safe fit

theorem validateNumber_safe {t : TypeName} (fit : ArgsFit c t args) :
    Safe c (validateNumber t v q args) := by
  unfold validateNumber
  simp only
  split_ifs
  · exact safe_ok _
  · exact safe_ok _
  · exact mismatch_safe fit

theorem validatePredicate_safe {t : TypeName} (fit : ArgsFit c t args) :
    Safe c (validatePredicate t v q args) := by
  unfold validatePredicate
  split
  · exact safe_ok _
  · exact mismatch_safe fit

theorem validateType_safe {t : TypeName} (recurSafe : RecurSafe recur v) (fit : ArgsFit c t args) :
    Safe c (validateType recur t v q args ctx) := by
  cases t with
  | string => exact validateString_safe fit
  | number | finite | int | safeInt | float => exact validateNumber_safe fit
  | array => exact validateArray_safe recurSafe fit
  | anyObject | object | plainObject | classObject => exact validateObject_safe rfl recurSafe fit
  | hashMap => exact validateHashMap_safe recurSafe fit
  | map => exact validateMap_safe recurSafe fit
  | set => exact validateSet_safe recurSafe fit
  | any | null | boolean | function | regexp | date | error | json =>
      exact validatePredicate_safe fit

end Validators

theorem argsFit_shape {c : Prop} {props : List (String × Option Typeset)}
    (sound : Typeset.validateShape { deep := true } props = .ok ())
    (compiles : c → Typeset.shapeEveryArgs Args.patternsCompile props = true) :
    ArgsFit c .object (some [("$", .typeset (.shape props))]) :=
  ⟨rfl, fun _ => by
    simp [TypeName.isObjectType, Typeset.validateShapeArg, sound, Typeset.nestAt, Except.mapError],
    fun holds => ⟨Args.patternsCompile_dollar _, by
      simp [Typeset.entriesEveryArgs, Typeset.everyArgs, compiles holds]⟩⟩

theorem argsFit_of_alternative {c : Prop} {unit : List Rule}
    (alt : Rule.Alternative { deep := true } unit)
    (compiles : c → Typeset.rulesEveryArgs Args.patternsCompile unit = true) :
    ArgsFit c (Rule.checkedType unit).1 (Rule.checkedType unit).2 := by
  cases alt with
  | type t => trivial
  | typeArgs t entries takesArgs sound =>
      refine ⟨takesArgs, sound, fun holds => ?_⟩
      simpa [Typeset.rulesEveryArgs, Typeset.everyArgs] using compiles holds
  | shape props sound =>
      exact argsFit_shape (sound rfl) fun holds => by
        simpa [Typeset.rulesEveryArgs, Typeset.everyArgs] using compiles holds
  | list inner sound =>
      refine ⟨rfl, fun _ => ?_, fun holds => ⟨Args.patternsCompile_dollar _, ?_⟩⟩
      · simp [Rule.checkedType, TypeName.isObjectType, Typeset.typesetArgNames,
          Typeset.validateTypesetArg, sound rfl, Typeset.nestAt, Except.mapError]
      · simpa [Typeset.rulesEveryArgs, Typeset.everyArgs, Typeset.entriesEveryArgs] using
          compiles holds

section Engine

variable {e : Engine} {recur : Recur} {v : Value} {ctx : Context}
variable (complete : ∀ t, e.has t = true) (recurSafe : RecurSafe recur v)
include complete recurSafe

theorem runValidator_safe {c : Prop} {ts : Typeset} {t : TypeName} {q : Qualifier}
    {args : Option Args} (fit : ArgsFit c t args) :
    Safe c (runValidator e recur v ts t q args ctx) := by
  have validated : Safe c (validateType recur t v q args ctx) := validateType_safe recurSafe fit
  unfold runValidator
  simp only [complete, Bool.not_true, Bool.false_eq_true, if_false]
  split
  · exact safe_ok _
  · exact validated

theorem choose_safe {c : Prop} {s : List Rule} {units : List (List Rule)} {q : Qualifier}
    (split : Rule.Splits { deep := true } s units)
    (compiles : c → Typeset.rulesEveryArgs Args.patternsCompile s = true) :
    Safe c (choose e recur v ctx q units) := by
  unfold choose
  simp only
  split
  · exact safe_ok _
  · refine Safe.map (firstMatch_safe fun unit member => ?_) _
    have ⟨inUnits, notValidator⟩ := List.mem_filter.mp member
    have alt := split.alternative_of_mem inUnits (by simpa using notValidator)
    rw [matchType_alternative alt q]
    exact runValidator_safe complete recurSafe (argsFit_of_alternative alt fun holds =>
      split.rulesEveryArgs (compiles holds) unit inUnits)

theorem orderedChoice_safe {c : Prop} {ts : Typeset} {q : Qualifier} {s : List Rule}
    {units : List (List Rule)} (split : Rule.Splits { deep := true } s units)
    (compiles : c → Typeset.rulesEveryArgs Args.patternsCompile s = true) :
    Safe c (orderedChoice e recur v ts ctx q units) := by
  unfold orderedChoice
  split
  · rename_i err raised
    exact safe_error.mpr (choose_safe complete recurSafe split compiles err raised)
  · exact safe_ok _
  · rename_i matched mvv _
    obtain ⟨verdict, accepted⟩ := afterMatch_ok e v ts ctx q matched mvv
    rw [accepted]
    exact safe_ok verdict

theorem checkStep_safe {ts : Typeset} (valid : ctx.validate = .ok ())
    (deepValid : Typeset.validate { deep := true } ts = .ok ()) :
    Safe (Typeset.everyArgs Args.patternsCompile ts = true) (checkStep e recur v ts ctx) := by
  have shallowValid := Typeset.validate_shallow_of_deep deepValid
  simp only [checkStep, valid, Typeset.verify, shallowValid, Except.mapError]
  cases ts with
  | type t => exact runValidator_safe complete recurSafe trivial
  | shape props =>
      have sound : Typeset.validateShape { deep := true } props = .ok () := by
        simpa [Typeset.validate] using deepValid
      exact runValidator_safe complete recurSafe (argsFit_shape sound fun holds => by
        simpa [Typeset.everyArgs] using holds)
  | validator name =>
      dsimp only
      rw [matchValidator_eq_afterMatch valid, if_pos (complete .any)]
      obtain ⟨verdict, accepted⟩ := afterMatch_ok e v (.validator name) ctx .default
        ((Typeset.type .any).fullyQualified (some .default)) v
      rw [accepted]
      exact safe_ok verdict
  | list rules =>
      obtain ⟨lead, s, units, rulesEq, leading, split, nonempty⟩ :=
        Rule.splits_of_validate deepValid
      dsimp only
      rw [matchAlternatives_eq_orderedChoice valid deepValid,
        Rule.units_of_splits rulesEq leading split nonempty]
      refine orderedChoice_safe complete recurSafe split fun holds => ?_
      rw [Typeset.everyArgs, rulesEq, Typeset.rulesEveryArgs_append, Bool.and_eq_true] at holds
      exact holds.2

end Engine

theorem checkFuel_safe {e : Engine} (complete : ∀ t, e.has t = true) :
    ∀ (fuel : Nat) (v : Value), v.depth < fuel → ∀ ts ctx, ctx.validate = .ok () →
      Typeset.validate { deep := true } ts = .ok () →
        Safe (Typeset.everyArgs Args.patternsCompile ts = true) (checkFuel e fuel v ts ctx)
  | 0, _, below, _, _, _, _ => absurd below (Nat.not_lt_zero _)
  | fuel + 1, v, below, ts, ctx, valid, deepValid =>
      checkStep_safe complete (fun x nested => checkFuel_safe complete fuel x (by omega))
        valid deepValid

end Check

namespace Engine

theorem has_standard (custom : CustomChecks) (t : TypeName) : (standard custom).has t = true := by
  cases t <;> rfl

theorem checkIn_safe {e : Engine} (complete : ∀ t, e.has t = true) (v : Value) {ts : Typeset}
    {ctx : Context} (valid : ctx.validate = .ok ())
    (deepValid : Typeset.validate { deep := true } ts = .ok ()) :
    Check.Safe (Typeset.everyArgs Args.patternsCompile ts = true) (e.checkIn v ts ctx) :=
  Check.checkFuel_safe complete (v.depth + 1) v (Nat.lt_succ_self _) ts ctx valid deepValid

/-- With every validator registered, a check against a deep-valid typeset whose patterns all
compile, in a consistent context, raises no error: it gives a verdict. -/
theorem checkIn_ok {e : Engine} (complete : ∀ t, e.has t = true) (v : Value) {ts : Typeset}
    {ctx : Context} (valid : ctx.validate = .ok ())
    (deepValid : Typeset.validate { deep := true } ts = .ok ())
    (compiles : Typeset.everyArgs Args.patternsCompile ts = true) :
    ∃ verdict, e.checkIn v ts ctx = .ok verdict :=
  (checkIn_safe complete v valid deepValid).ok_of compiles

/-- The standard engine, given a typeset that passes the deep grammar check and a consistent
context, returns a verdict or an error raised by a pattern argument, whatever the value. -/
theorem checkIn_standard_verdictOrPatternError (custom : CustomChecks) (v : Value) (t : Typeset)
    (ctx : Context) (valid : ctx.validate = .ok ())
    (deepValid : Typeset.validate { deep := true } t = .ok ()) :
    (∃ verdict, (standard custom).checkIn v t ctx = .ok verdict) ∨
      ∃ err, (standard custom).checkIn v t ctx = .error err ∧ err.isPattern = true := by
  have safe := checkIn_safe (has_standard custom) v valid deepValid
  cases checked : (standard custom).checkIn v t ctx with
  | ok verdict => exact .inl ⟨verdict, rfl⟩
  | error err => exact .inr ⟨err, rfl, (safe err checked).1⟩

theorem checkIn_standard_arrayOfNumbers :
    (Context.root (.array [.number 1])).validate = .ok () ∧
      Typeset.validate { deep := true }
        (.list [.form (.type .array), .args [("$", .typeset (.type .number))]]) = .ok () ∧
      ((∃ verdict, (standard fun _ _ => .ok true).checkIn (.array [.number 1])
          (.list [.form (.type .array), .args [("$", .typeset (.type .number))]])
          (Context.root (.array [.number 1])) = .ok verdict) ∨
        ∃ err, (standard fun _ _ => .ok true).checkIn (.array [.number 1])
          (.list [.form (.type .array), .args [("$", .typeset (.type .number))]])
          (Context.root (.array [.number 1])) = .error err ∧ err.isPattern = true) :=
  ⟨rfl, rfl, checkIn_standard_verdictOrPatternError _ _ _ _ rfl rfl⟩

end Engine

end Conformance
