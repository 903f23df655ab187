import Conformance.Proofs.Safety

/-!
# The errors a check raises

A check raises an error when the typeset breaks the grammar, a type is given arguments it does
not take or has no validator, the context is inconsistent, or a pattern argument does not
compile (`TypesetError.fromCheck`).  The other errors belong to the entry points around it:
reading a typeset document names an unknown type or qualifier, checking a typeset as a list
needs a list, and checking it as one type needs one alternative.

Main statement: `Engine.checkIn_ownErrors`, for every engine, value, typeset and context.  A
validator raises the errors of its own arguments and passes up those of nested checks; the
engine hands `matchType`, which refuses a typeset of more than one alternative, only a type, a
shape, or one alternative of a well-formed list.  The proof is by induction on the fuel, each
validator's lemma taking the errors of nested checks as a hypothesis (`Check.RecurOwnErrors`);
a step reads nested checks only below its value (`Check.checkStep_ownErrors_below`), so a fuel
above the value's depth is enough.  Hence `Engine.checkIn_ne_outOfFuel`: a check never runs out
of fuel.
-/

namespace Conformance

namespace TypesetError

/-- Whether a check itself can raise the error: all but an unknown type name or qualifier
symbol, which reading a document raises, a typeset that is no list or not one type, which the
entry points for a list and for one type raise, and running out of fuel, which a check started
from the value's depth never does. -/
def fromCheck : TypesetError → Bool
  | .unknownType _ | .unknownQualifier _ | .listRequired _ | .notSingleType _ | .outOfFuel => false
  | _ => true

end TypesetError

namespace Check

/-- A value, or an error that a check itself raises. -/
def OwnErrors {α : Type} (r : Except TypesetError α) : Prop :=
  ∀ err, r = .error err → err.fromCheck = true

@[simp]
theorem ownErrors_ok {α : Type} (a : α) : OwnErrors (.ok a : Except TypesetError α) := by
  intro err raised
  cases raised

@[simp]
theorem ownErrors_error {α : Type} {err : TypesetError} :
    OwnErrors (.error err : Except TypesetError α) ↔ err.fromCheck = true :=
  ⟨fun own => own err rfl, fun fromCheck _ raised => by cases raised; exact fromCheck⟩

theorem OwnErrors.map {α β : Type} {r : Except TypesetError α} (own : OwnErrors r) (f : α → β) :
    OwnErrors (r.map f) := by
  cases r with
  | error err => simpa [Except.map] using own err rfl
  | ok a => exact ownErrors_ok _

theorem OwnErrors.bind {α β : Type} {r : Except TypesetError α}
    {f : α → Except TypesetError β} (own : OwnErrors r) (next : ∀ a, OwnErrors (f a)) :
    OwnErrors (r >>= f) := by
  cases r with
  | error err => exact ownErrors_error.mpr (own err rfl)
  | ok a => exact next a

/-- The checks of nested values raise only errors a check raises. -/
def RecurOwnErrors (recur : Recur) : Prop :=
  ∀ x ts ctx, OwnErrors (recur x ts ctx)

/-! ### The errors of a validator's own arguments -/

section Reports

variable {v : Value} {t : TypeName} {q : Qualifier} {args : Option Args}

theorem typesetOf_ownErrors (q : Option Qualifier) (fullyQualified : Bool) :
    OwnErrors (typesetOf t q args fullyQualified) := by
  unfold typesetOf
  split
  · exact ownErrors_error.mpr rfl
  · dsimp only
    split <;> exact ownErrors_ok _

theorem mismatchAt_ownErrors (path : List String) : OwnErrors (mismatchAt v t q args path) :=
  (typesetOf_ownErrors _ _).bind fun _ => (typesetOf_ownErrors _ _).bind fun _ => ownErrors_ok _

theorem mismatch_ownErrors : OwnErrors (mismatch v t q args) :=
  (mismatchAt_ownErrors []).map _

theorem childFailure_ownErrors (segment : String) (child : Mismatch) :
    OwnErrors (childFailure v t q args segment child) :=
  (typesetOf_ownErrors _ _).map _

theorem compilePattern_ownErrors (pattern : String) (flags : Option String) :
    OwnErrors (compilePattern pattern flags) := by
  unfold compilePattern
  dsimp only
  split
  · exact ownErrors_error.mpr rfl
  · split
    · exact ownErrors_ok _
    · exact ownErrors_error.mpr rfl

theorem keyPattern_ownErrors (a : Args) : OwnErrors (keyPattern a) := by
  unfold keyPattern
  split
  · exact (compilePattern_ownErrors _ _).map _
  · exact ownErrors_ok _

end Reports

/-! ### Validators pass up the errors of nested checks -/

theorem childThen_ownErrors {r : Except TypesetError Verdict}
    {next : Value → Except TypesetError Verdict} {fail : Mismatch → Except TypesetError Verdict}
    (child : OwnErrors r) (rest : ∀ mvv, OwnErrors (next mvv)) (failed : ∀ m, OwnErrors (fail m)) :
    OwnErrors (childThen r next fail) := by
  cases r with
  | error err => exact child
  | ok verdict =>
      cases verdict with
      | success mvv => exact rest mvv
      | failure m => exact failed m

theorem optionalThen_ownErrors {r : Except TypesetError (Except Mismatch Value)}
    {next : Value → Except TypesetError Verdict} {fail : Mismatch → Except TypesetError Verdict}
    (child : OwnErrors r) (rest : ∀ mvv, OwnErrors (next mvv)) (failed : ∀ m, OwnErrors (fail m)) :
    OwnErrors (optionalThen r next fail) := by
  cases r with
  | error err => exact ownErrors_error.mpr (child err rfl)
  | ok checked =>
      cases checked with
      | ok mvv => exact rest mvv
      | error m => exact failed m

section Loops

variable {recur : Recur} (recurOwn : RecurOwnErrors recur) {ctx : Context} {q : Qualifier}
include recurOwn

theorem checkElements_ownErrors {arr : Value} {ts : Typeset} {t : TypeName} {args : Option Args} :
    ∀ {i : Nat} {acc items : List Value},
      OwnErrors (checkElements recur arr ts ctx t q args i acc items)
  | _, _, [] => ownErrors_ok _
  | i, acc, x :: rest => by
      simp only [checkElements]
      exact childThen_ownErrors (recurOwn _ _ _)
        (fun _ => checkElements_ownErrors) (fun _ => childFailure_ownErrors _ _)

theorem checkShape_ownErrors {v : Value} {shape : List (String × Option Typeset)} :
    ∀ {acc : List (String × Value)} {rest : List (String × Option Typeset)},
      OwnErrors (checkShape recur v shape ctx acc rest)
  | _, [] => ownErrors_ok _
  | acc, (k, none) :: rest => by
      simp only [checkShape]
      exact checkShape_ownErrors
  | acc, (k, some ts) :: rest => by
      simp only [checkShape]
      exact childThen_ownErrors (recurOwn _ _ _)
        (fun _ => checkShape_ownErrors) (fun _ => ownErrors_ok _)

theorem checkMembers_ownErrors {v : Value} {args : Args} {ts : Typeset} :
    ∀ {acc items : List Value}, OwnErrors (checkMembers recur v q args ts ctx acc items)
  | _, [] => ownErrors_ok _
  | acc, x :: rest => by
      simp only [checkMembers]
      exact childThen_ownErrors (recurOwn _ _ _)
        (fun _ => checkMembers_ownErrors) (fun _ => childFailure_ownErrors _ _)

theorem checkDictionaryValue_ownErrors {args : Args} {ts : Typeset} {child : Value}
    {cctx : Context} : OwnErrors (checkDictionaryValue recur q args ts child cctx) := by
  unfold checkDictionaryValue
  split
  · rename_i err raised
    exact ownErrors_error.mpr (recurOwn _ _ _ err raised)
  · split
    · exact recurOwn _ _ _
    · exact ownErrors_ok _
  · exact ownErrors_ok _

theorem checkDictionary_ownErrors {v : Value} {args : Args} {keyExp : Option Pattern.Compiled}
    {valuesTs : Option Typeset} :
    ∀ {acc props : List (String × Value)},
      OwnErrors (checkDictionary recur v q args keyExp valuesTs ctx acc props)
  | _, [] => ownErrors_ok _
  | acc, (k, child) :: rest => by
      simp only [checkDictionary]
      split
      · exact (mismatchAt_ownErrors _).map _
      · cases valuesTs with
        | none => exact checkDictionary_ownErrors
        | some ts =>
            exact childThen_ownErrors (checkDictionaryValue_ownErrors recurOwn)
              (fun _ => checkDictionary_ownErrors) (fun _ => childFailure_ownErrors _ _)

theorem checkOptional_ownErrors {ts? : Option Typeset} {x : Value} {cctx : Context} :
    OwnErrors (checkOptional recur ts? x cctx) := by
  unfold checkOptional
  split
  · split
    · rename_i err raised
      exact ownErrors_error.mpr (recurOwn _ _ _ err raised)
    · exact ownErrors_ok _
    · exact ownErrors_ok _
  · exact ownErrors_ok _

theorem checkEntries_ownErrors {v : Value} {args : Args} {keysTs valuesTs : Option Typeset}
    {keyExp : Option Pattern.Compiled} :
    ∀ {acc entries : List (Value × Value)},
      OwnErrors (checkEntries recur v q args keysTs keyExp valuesTs ctx acc entries)
  | _, [] => ownErrors_ok _
  | acc, (key, child) :: rest => by
      simp only [checkEntries]
      refine optionalThen_ownErrors (checkOptional_ownErrors recurOwn) (fun _ => ?_)
        (fun _ => childFailure_ownErrors _ _)
      split
      · exact (mismatchAt_ownErrors _).map _
      · exact optionalThen_ownErrors (checkOptional_ownErrors recurOwn)
          (fun _ => checkEntries_ownErrors) (fun _ => childFailure_ownErrors _ _)

end Loops

theorem stringMeets_ownErrors (s : String) (q : Qualifier) (a : Args) :
    OwnErrors (stringMeets s q a) := by
  unfold stringMeets
  split
  · exact ownErrors_ok _
  · split
    · exact (compilePattern_ownErrors _ _).map _
    · simp only
      split_ifs <;> exact ownErrors_ok _

theorem validateString_ownErrors {v : Value} {q : Qualifier} {args : Option Args} :
    OwnErrors (validateString v q args) := by
  unfold validateString
  split
  · exact ownErrors_ok _
  · simp only
    split
    · rename_i err raised
      cases v with
      | string s =>
          cases args with
          | none => cases raised
          | some a => exact ownErrors_error.mpr (stringMeets_ownErrors s q a err raised)
      | _ => cases raised
    · exact ownErrors_ok _
    · exact mismatch_ownErrors

theorem validateNumber_ownErrors {t : TypeName} {v : Value} {q : Qualifier} {args : Option Args} :
    OwnErrors (validateNumber t v q args) := by
  unfold validateNumber
  simp only
  split_ifs
  · exact ownErrors_ok _
  · exact ownErrors_ok _
  · exact mismatch_ownErrors

theorem validatePredicate_ownErrors {t : TypeName} {v : Value} {q : Qualifier}
    {args : Option Args} : OwnErrors (validatePredicate t v q args) := by
  unfold validatePredicate
  split
  · exact ownErrors_ok _
  · exact mismatch_ownErrors

section Validators

variable {recur : Recur} (recurOwn : RecurOwnErrors recur) {v : Value} {q : Qualifier}
  {args : Option Args} {ctx : Context}
include recurOwn

theorem validateArray_ownErrors : OwnErrors (validateArray recur v q args ctx) := by
  unfold validateArray
  split
  · exact ownErrors_ok _
  · cases v with
    | array items =>
        cases args with
        | none => exact ownErrors_ok _
        | some a =>
            simp only
            split_ifs
            · exact mismatch_ownErrors
            · cases typesetArg a "$" with
              | none => exact ownErrors_ok _
              | some ts => exact checkElements_ownErrors recurOwn
    | _ => exact mismatch_ownErrors

theorem validateSet_ownErrors : OwnErrors (validateSet recur v q args ctx) := by
  unfold validateSet
  split
  · exact ownErrors_ok _
  · cases v with
    | set items =>
        cases args with
        | none => exact ownErrors_ok _
        | some a =>
            simp only
            split
            · exact mismatch_ownErrors
            · cases typesetArg a "$values" with
              | none => exact ownErrors_ok _
              | some ts => exact checkMembers_ownErrors recurOwn
    | _ => exact mismatch_ownErrors

theorem validateHashMap_ownErrors : OwnErrors (validateHashMap recur v q args ctx) := by
  unfold validateHashMap
  split
  · exact ownErrors_ok _
  · cases v with
    | object cls props =>
        cases args with
        | none => exact ownErrors_ok _
        | some a =>
            simp only
            split
            · exact mismatch_ownErrors
            · cases keys : keyPattern a with
              | error err => simpa using keyPattern_ownErrors a err keys
              | ok keyExp =>
                  simp only
                  split
                  · exact ownErrors_ok _
                  · exact checkDictionary_ownErrors recurOwn
    | _ => exact mismatch_ownErrors

theorem validateMap_ownErrors : OwnErrors (validateMap recur v q args ctx) := by
  unfold validateMap
  split
  · exact ownErrors_ok _
  · cases v with
    | map entries =>
        cases args with
        | none => exact ownErrors_ok _
        | some a =>
            have keyExpOwn : OwnErrors (if (typesetArg a "$keys").all isStringTypeset then
                keyPattern a else .ok none) := by
              split
              · exact keyPattern_ownErrors a
              · exact ownErrors_ok none
            simp only
            split
            · exact mismatch_ownErrors
            · split
              · rename_i err raised
                exact ownErrors_error.mpr (keyExpOwn err raised)
              · split
                · exact ownErrors_ok _
                · exact checkEntries_ownErrors recurOwn
    | _ => exact mismatch_ownErrors

theorem validateObject_ownErrors {t : TypeName} : OwnErrors (validateObject recur t v q args ctx) := by
  unfold validateObject
  split
  · exact ownErrors_ok _
  · -- the refusal's condition holds a test of its own, so the outer test is taken apart whole
    simp only
    rw [apply_ite OwnErrors, ite_prop_iff_and]
    refine ⟨fun _ => ?_, fun _ => ?_⟩
    · cases reported : mismatchAt v t q args [] with
      | error err => simpa using mismatchAt_ownErrors [] err reported
      | ok m => exact ownErrors_ok _
    · cases args.bind (Args.shape? · "$") with
      | none => exact ownErrors_ok _
      | some s => exact checkShape_ownErrors recurOwn

theorem validateType_ownErrors {t : TypeName} : OwnErrors (validateType recur t v q args ctx) := by
  cases t with
  | string => exact validateString_ownErrors
  | number | finite | int | safeInt | float => exact validateNumber_ownErrors
  | array => exact validateArray_ownErrors recurOwn
  | anyObject | object | plainObject | classObject => exact validateObject_ownErrors recurOwn
  | hashMap => exact validateHashMap_ownErrors recurOwn
  | map => exact validateMap_ownErrors recurOwn
  | set => exact validateSet_ownErrors recurOwn
  | any | null | boolean | function | regexp | date | error | json =>
      exact validatePredicate_ownErrors

end Validators

/-! ### The engine hands `matchType` one alternative at a time -/

theorem firstMatch_ownErrors {attempt : List Rule → Except TypesetError Verdict} :
    ∀ {units : List (List Rule)}, (∀ unit ∈ units, OwnErrors (attempt unit)) →
      OwnErrors (firstMatch attempt units)
  | [], _ => ownErrors_ok _
  | unit :: rest, own => by
      simp only [firstMatch]
      split
      · rename_i err raised
        exact ownErrors_error.mpr (own unit List.mem_cons_self err raised)
      · exact ownErrors_ok _
      · exact (firstMatch_ownErrors fun later member =>
          own later (List.mem_cons_of_mem _ member)).map _

theorem verify_ownErrors (o : GrammarOptions) (ts : Typeset) : OwnErrors (ts.verify o) := by
  unfold Typeset.verify
  cases Typeset.validate o ts with
  | error reason => exact ownErrors_error.mpr rfl
  | ok u => exact ownErrors_ok _

theorem Context.validate_ownErrors (c : Context) : OwnErrors c.validate := by
  unfold Context.validate
  split
  · split
    · exact ownErrors_ok _
    · exact ownErrors_error.mpr rfl
  · exact ownErrors_error.mpr rfl
  · exact ownErrors_ok _

section Engine

variable {e : Engine} {recur : Recur} (recurOwn : RecurOwnErrors recur) {v : Value}
  {ctx : Context}
include recurOwn

theorem runValidator_ownErrors {ts : Typeset} {t : TypeName} {q : Qualifier} {args : Option Args} :
    OwnErrors (runValidator e recur v ts t q args ctx) := by
  unfold runValidator
  split
  · exact ownErrors_error.mpr rfl
  · split
    · exact ownErrors_ok _
    · exact validateType_ownErrors recurOwn

theorem orderedChoice_ownErrors {o : GrammarOptions} {ts : Typeset} {q : Qualifier}
    {s : List Rule} {units : List (List Rule)} (split : Rule.Splits o s units) :
    OwnErrors (orderedChoice e recur v ts ctx q units) := by
  have chosen : OwnErrors (choose e recur v ctx q units) := by
    unfold choose
    simp only
    split
    · exact ownErrors_ok _
    · refine (firstMatch_ownErrors fun unit member => ?_).map _
      have ⟨inUnits, notValidator⟩ := List.mem_filter.mp member
      rw [matchType_alternative (split.alternative_of_mem inUnits (by simpa using notValidator)) q]
      exact runValidator_ownErrors recurOwn
  unfold orderedChoice
  split
  · rename_i err raised
    exact ownErrors_error.mpr (chosen err raised)
  · exact ownErrors_ok _
  · rename_i matched mvv _
    obtain ⟨verdict, accepted⟩ := afterMatch_ok e v ts ctx q matched mvv
    rw [accepted]
    exact ownErrors_ok verdict

theorem checkStep_ownErrors (ts : Typeset) : OwnErrors (checkStep e recur v ts ctx) := by
  unfold checkStep
  split
  · rename_i err raised
    exact ownErrors_error.mpr (Context.validate_ownErrors ctx err raised)
  · rename_i valid
    split
    · rename_i err raised
      exact ownErrors_error.mpr (verify_ownErrors {} ts err raised)
    · rename_i verified
      have wellFormed : Typeset.validate {} ts = .ok () := by
        simp only [Typeset.verify] at verified
        cases checked : Typeset.validate {} ts with
        | error reason => simp [checked, Except.mapError] at verified
        | ok u => rfl
      cases ts with
      | type t => exact runValidator_ownErrors recurOwn
      | shape props => exact runValidator_ownErrors recurOwn
      | validator name =>
          dsimp only
          rw [matchValidator_eq_afterMatch valid]
          split
          · obtain ⟨verdict, accepted⟩ := afterMatch_ok e v (.validator name) ctx .default
              ((Typeset.type .any).fullyQualified (some .default)) v
            rw [accepted]
            exact ownErrors_ok verdict
          · exact ownErrors_error.mpr rfl
      | list rules =>
          obtain ⟨lead, s, units, rulesEq, leading, split, nonempty⟩ :=
            Rule.splits_of_validate wellFormed
          dsimp only
          rw [matchAlternatives_eq_orderedChoice valid wellFormed,
            Rule.units_of_splits rulesEq leading split nonempty]
          exact orderedChoice_ownErrors recurOwn split

end Engine

/-- One level of a check raises only errors a check raises when the checks of the values below
`v` do: the step reads nothing else. -/
theorem checkStep_ownErrors_below {e : Engine} {recur : Recur} {v : Value} {ctx : Context}
    (recurOwn : ∀ x, x.depth < v.depth → ∀ ts ctx, OwnErrors (recur x ts ctx)) (ts : Typeset) :
    OwnErrors (checkStep e recur v ts ctx) := by
  have agree : AgreeBelow v recur
      (fun x ts ctx => if x.depth < v.depth then recur x ts ctx else .ok (.success x)) := by
    intro x shallower ts ctx
    simp [shallower]
  rw [checkStep_congr agree]
  apply checkStep_ownErrors
  intro x ts ctx
  by_cases shallower : x.depth < v.depth
  · simpa [shallower] using recurOwn x shallower ts ctx
  · simp [shallower]

theorem checkFuel_ownErrors (e : Engine) :
    ∀ (fuel : Nat) (v : Value), v.depth < fuel → ∀ ts ctx, OwnErrors (checkFuel e fuel v ts ctx)
  | 0, _, below, _, _ => absurd below (Nat.not_lt_zero _)
  | fuel + 1, v, below, ts, _ => by
      have nestedOwn : ∀ x, x.depth < v.depth → ∀ ts ctx, OwnErrors (checkFuel e fuel x ts ctx) :=
        fun x shallower => checkFuel_ownErrors e fuel x (by omega)
      exact checkStep_ownErrors_below nestedOwn ts

end Check

namespace Engine

/-- A check raises only errors of its own: the typeset breaks the grammar, a type is given
arguments it does not take or has no validator, the context is inconsistent, or a pattern does
not compile.  It never reports an unknown type or qualifier, a typeset that must be a list, or
one that must be a single type, and it never runs out of fuel. -/
theorem checkIn_ownErrors (e : Engine) (v : Value) (ts : Typeset) (ctx : Context) :
    Check.OwnErrors (e.checkIn v ts ctx) :=
  Check.checkFuel_ownErrors e (v.depth + 1) v (Nat.lt_succ_self _) ts ctx

/-- A check never runs out of fuel: it starts one level above the value's depth, and each nested
check is of a value shallower than its container. -/
theorem checkIn_ne_outOfFuel (e : Engine) (v : Value) (ts : Typeset) (ctx : Context) :
    e.checkIn v ts ctx ≠ .error .outOfFuel := fun exhausted =>
  absurd (e.checkIn_ownErrors v ts ctx _ exhausted) (by simp [TypesetError.fromCheck])

end Engine

end Conformance
