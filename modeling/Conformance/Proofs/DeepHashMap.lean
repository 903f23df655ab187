import Conformance.Proofs.SingleType
import Conformance.Proofs.Relaxation

/-!
# Deep hash maps

A hash map with `deep` set checks each property value against its `$values` typeset `T`, and
when `T` refuses the value, checks the value once more against the hash map itself, under the
same qualifier and with the same arguments.  A deep hash map thus accepts trees of objects
whose leaves pass `T`.

Main statement: `Engine.checkIn_deepHashMap`.  With a validator for `hashMap`, a `$values`
typeset, `deep` set and a key pattern that compiles, a check against the hash map succeeds
exactly on the values of `Check.DeepAccepts`: the values the qualifier permits, and objects of
the right size whose keys the pattern takes and each of whose values passes `T`, or is refused
by `T` and accepted in turn.  A refusal is a failure: an error of `T` on a value is not one, and
it ends the whole check with that error (`Check.checkIn_deepHashMap_error`, through the walk's
`Check.checkDictionary_eq_error`).  A failure is reported at the first property that fails, under `key=`
for a key the pattern refuses, and under `valueKey=` for a value, with the path, mismatch and
cause of the check of that value against the hash map.
-/

namespace Conformance

namespace Check

/-- A check refuses a value: it answers with a failure, not an error. -/
def Refuses (r : Except TypesetError Verdict) : Prop :=
  ∃ m, r = .ok (.failure m)

/-- The typeset of a hash map under qualifier `q` with arguments `args`, which a deep hash map
checks a refused value against once more. -/
def hashMapTypeset (q : Qualifier) (args : Args) : Typeset :=
  .list [.qualifier q, .form (.type .hashMap), .args args]

section Deep

variable (e : Engine) (q : Qualifier) (args : Args) (T : Typeset)
  (keyExp : Option Pattern.Compiled)

mutual

/-- The values a deep hash map accepts, each in the context it is checked in. -/
inductive DeepAccepts : Value → Context → Prop
  /-- The qualifier permits the value. -/
  | permitted {x : Value} {ctx : Context} : q.permits x = true → DeepAccepts x ctx
  /-- An object of the right size whose keys the key pattern takes and whose values are
  accepted, each in the context of its property. -/
  | object {cls : Option String} {props : List (String × Value)} {ctx : Context} :
      hasLength args props.length = true →
      (∀ k y, (k, y) ∈ props → refusesKey keyExp (.string k) = false) →
      (∀ k y, (k, y) ∈ props →
        DeepAcceptsValue y (ctx.derive (.object cls props) (some (.prop k)))) →
      DeepAccepts (.object cls props) ctx

/-- The property values a deep hash map accepts: those that pass `T`, and those that `T`
refuses and the hash map accepts in turn. -/
inductive DeepAcceptsValue : Value → Context → Prop
  | passes {y : Value} {cctx : Context} : Succeeds (e.checkIn y T cctx) → DeepAcceptsValue y cctx
  | retried {y : Value} {cctx : Context} :
      Refuses (e.checkIn y T cctx) → DeepAccepts y cctx → DeepAcceptsValue y cctx

end

/-- How a deep hash map reports a failure of value `x` in context `ctx`: as its own, at the
value, when the value is no object of the right size and the qualifier does not permit it; or at
the first property that fails, every property before it being accepted, under `key=` when the
key pattern refuses its key, and under `valueKey=` when `T` refuses its value and the hash map
refuses it too, with the path, mismatch and cause of that second check. -/
inductive DeepRefusal : Value → Context → Mismatch → Prop
  | own {x : Value} {ctx : Context} : q.permits x = false →
      (∀ cls props, x = .object cls props → hasLength args props.length = false) →
      DeepRefusal x ctx ⟨x, hashMapTypeset q args, [], hashMapTypeset q args, none⟩
  | key {cls : Option String} {props before after : List (String × Value)} {k : String}
      {y : Value} {ctx : Context} : props = before ++ (k, y) :: after →
      (∀ k' y', (k', y') ∈ before → refusesKey keyExp (.string k') = false ∧
        DeepAcceptsValue e q args T keyExp y' (ctx.derive (.object cls props) (some (.prop k')))) →
      refusesKey keyExp (.string k) = true →
      DeepRefusal (.object cls props) ctx ⟨.object cls props, hashMapTypeset q args,
        [keySegment "key" (.string k)], hashMapTypeset q args, none⟩
  | value {cls : Option String} {props before after : List (String × Value)} {k : String}
      {y : Value} {ctx : Context} {m : Mismatch} : props = before ++ (k, y) :: after →
      (∀ k' y', (k', y') ∈ before → refusesKey keyExp (.string k') = false ∧
        DeepAcceptsValue e q args T keyExp y' (ctx.derive (.object cls props) (some (.prop k')))) →
      refusesKey keyExp (.string k) = false →
      Refuses (e.checkIn y T (ctx.derive (.object cls props) (some (.prop k)))) →
      e.checkIn y (hashMapTypeset q args) (ctx.derive (.object cls props) (some (.prop k))) =
        .ok (.failure m) →
      DeepRefusal (.object cls props) ctx ⟨.object cls props, hashMapTypeset q args,
        keySegment "valueKey" (.string k) :: m.path, m.mismatch, m.cause⟩

/-- How a deep hash map raises an error on value `x` in context `ctx`: `x` is an object of the
right size that the qualifier does not permit, and at the first property that does not pass,
every property before it being accepted and its own key taken by the pattern, the check of its
value against `T` raised the error, or `T` refused the value and the check against the hash map
once more raised it. -/
inductive DeepError : Value → Context → TypesetError → Prop
  | value {cls : Option String} {props before after : List (String × Value)} {k : String}
      {y : Value} {ctx : Context} {err : TypesetError} : q.permits (.object cls props) = false →
      hasLength args props.length = true → props = before ++ (k, y) :: after →
      (∀ k' y', (k', y') ∈ before → refusesKey keyExp (.string k') = false ∧
        DeepAcceptsValue e q args T keyExp y' (ctx.derive (.object cls props) (some (.prop k')))) →
      refusesKey keyExp (.string k) = false →
      (e.checkIn y T (ctx.derive (.object cls props) (some (.prop k))) = .error err ∨
        Refuses (e.checkIn y T (ctx.derive (.object cls props) (some (.prop k)))) ∧
          e.checkIn y (hashMapTypeset q args) (ctx.derive (.object cls props) (some (.prop k))) =
            .error err) →
      DeepError (.object cls props) ctx err

end Deep

section Loop

variable {recur : Recur} {q : Qualifier} {args : Args} {T : Typeset}

theorem checkDictionaryValue_succeeds_iff (deep : Args.flag? args "deep" = some true)
    {y : Value} {cctx : Context} :
    Succeeds (checkDictionaryValue recur q args T y cctx) ↔
      Succeeds (recur y T cctx) ∨
        Refuses (recur y T cctx) ∧ Succeeds (recur y (hashMapTypeset q args) cctx) := by
  unfold checkDictionaryValue
  cases recur y T cctx with
  | error err => simp [Refuses, not_succeeds_error]
  | ok verdict =>
      cases verdict with
      | success mvv => simp [Succeeds]
      | failure m => simp [Refuses, deep, hashMapTypeset]

theorem checkDictionary_succeeds_iff {v : Value} {keyExp : Option Pattern.Compiled}
    {ctx : Context} :
    ∀ {props acc : List (String × Value)},
      Succeeds (checkDictionary recur v q args keyExp (some T) ctx acc props) ↔
        ∀ k y, (k, y) ∈ props → refusesKey keyExp (.string k) = false ∧
          Succeeds (checkDictionaryValue recur q args T y (ctx.derive v (some (.prop k))))
  | [], acc => by simp [checkDictionary, Succeeds]
  | (k, y) :: rest, acc => by
      simp only [checkDictionary, List.mem_cons, Prod.mk.injEq]
      by_cases refused : refusesKey keyExp (.string k) = true
      · simp only [refused, if_true]
        exact iff_of_false not_succeeds_map_failure fun each =>
          absurd (each k y (.inl ⟨rfl, rfl⟩)).1 (by simp [refused])
      · simp only [refused, Bool.false_eq_true, if_false]
        cases value : checkDictionaryValue recur q args T y (ctx.derive v (some (.prop k))) with
        | error err =>
            exact iff_of_false not_succeeds_error fun each =>
              not_succeeds_error (value ▸ (each k y (.inl ⟨rfl, rfl⟩)).2)
        | ok verdict =>
            cases verdict with
            | success mvv =>
                simp only
                rw [checkDictionary_succeeds_iff]
                constructor
                · rintro later k' y' (⟨rfl, rfl⟩ | member)
                  · exact ⟨by simpa using refused, value ▸ ⟨mvv, rfl⟩⟩
                  · exact later k' y' member
                · exact fun each k' y' member => each k' y' (.inr member)
            | failure m =>
                exact iff_of_false not_succeeds_childFailure fun each =>
                  not_succeeds_failure (value ▸ (each k y (.inl ⟨rfl, rfl⟩)).2)

theorem checkDictionaryValue_failure_iff (deep : Args.flag? args "deep" = some true)
    {y : Value} {cctx : Context} {m : Mismatch} :
    checkDictionaryValue recur q args T y cctx = .ok (.failure m) ↔
      Refuses (recur y T cctx) ∧ recur y (hashMapTypeset q args) cctx = .ok (.failure m) := by
  unfold checkDictionaryValue
  cases recur y T cctx with
  | error err => simp [Refuses]
  | ok verdict =>
      cases verdict with
      | success mvv => simp [Refuses]
      | failure m' => simp [Refuses, deep, hashMapTypeset]

theorem checkDictionaryValue_eq_error (deep : Args.flag? args "deep" = some true)
    {y : Value} {cctx : Context} {err : TypesetError} :
    checkDictionaryValue recur q args T y cctx = .error err ↔
      recur y T cctx = .error err ∨
        Refuses (recur y T cctx) ∧ recur y (hashMapTypeset q args) cctx = .error err := by
  unfold checkDictionaryValue
  cases recur y T cctx with
  | error err' => simp [Refuses]
  | ok verdict =>
      cases verdict with
      | success mvv => simp [Refuses]
      | failure m => simp [Refuses, deep, hashMapTypeset]

theorem mismatchAt_hashMap_ne_error {x : Value} {path : List String} {err : TypesetError} :
    (mismatchAt x .hashMap q (some args) path).map Verdict.failure ≠ .error err := by
  obtain ⟨m, reported⟩ := mismatchAt_ok_of_takes (v := x) (q := q)
    (fun _ (_ : some args = some _) => rfl : ∀ a, some args = some a → TypeName.hashMap.hasArgs = true)
    path
  simp [reported, Except.map]

theorem childFailure_hashMap_ne_error {x : Value} {segment : String} {child : Mismatch}
    {err : TypesetError} : childFailure x .hashMap q (some args) segment child ≠ .error err := by
  obtain ⟨ts, typed⟩ := typesetOf_ok_of_takes
    (fun _ (_ : some args = some _) => rfl : ∀ a, some args = some a → TypeName.hashMap.hasArgs = true)
    (some q) false
  rw [childFailure_eq_failure.mpr ⟨ts, typed, rfl⟩]
  simp

/-- The walk over a hash map's properties raises an error exactly at the first property whose
value raises one, every property before it passing and its own key taken by the pattern; the
properties after it are not read. -/
theorem checkDictionary_eq_error {v : Value} {keyExp : Option Pattern.Compiled} {ctx : Context}
    {err : TypesetError} :
    ∀ {props acc : List (String × Value)},
      checkDictionary recur v q args keyExp (some T) ctx acc props = .error err ↔
        ∃ before k y after, props = before ++ (k, y) :: after ∧
          (∀ p ∈ before, DictionaryPasses recur v q args keyExp (some T) ctx p) ∧
          refusesKey keyExp (.string k) = false ∧
          checkDictionaryValue recur q args T y (ctx.derive v (some (.prop k))) = .error err := by
  intro props acc
  constructor
  · intro raised
    induction props generalizing acc with
    | nil => simp [checkDictionary] at raised
    | cons p rest ih =>
        obtain ⟨k, y⟩ := p
        simp only [checkDictionary] at raised
        split at raised
        · exact absurd raised mismatchAt_hashMap_ne_error
        rename_i accepted
        simp only [Bool.not_eq_true] at accepted
        cases value : checkDictionaryValue recur q args T y (ctx.derive v (some (.prop k))) with
        | error err' =>
            rw [value] at raised
            cases raised
            exact ⟨[], k, y, rest, rfl, by simp, accepted, value⟩
        | ok verdict =>
            cases verdict with
            | success mvv =>
                rw [value] at raised
                obtain ⟨before, k', y', after, rfl, passed, keyTaken, fails⟩ := ih raised
                refine ⟨(k, y) :: before, k', y', after, rfl, ?_, keyTaken, fails⟩
                rintro p (_ | ⟨_, member⟩)
                · exact ⟨accepted, fun ts given => by cases given; exact ⟨mvv, value⟩⟩
                · exact passed p member
            | failure m =>
                rw [value] at raised
                exact absurd raised childFailure_hashMap_ne_error
  · rintro ⟨before, k, y, after, rfl, passed, keyTaken, raised⟩
    obtain ⟨acc', skipped⟩ : ∃ acc', checkDictionary recur v q args keyExp (some T) ctx acc
        (before ++ (k, y) :: after) =
          checkDictionary recur v q args keyExp (some T) ctx acc' ((k, y) :: after) :=
      checkDictionary_skip passed
    rw [skipped]
    simp [checkDictionary, keyTaken, raised]

theorem validateHashMap_eq_error {keyExp : Option Pattern.Compiled}
    (values : typesetArg args "$values" = some T) (compiles : keyPattern args = .ok keyExp)
    {x : Value} {ctx : Context} {err : TypesetError} :
    validateHashMap recur x q (some args) ctx = .error err ↔
      q.permits x = false ∧ ∃ cls props, x = .object cls props ∧
        hasLength args props.length = true ∧
        checkDictionary recur x q args keyExp (some T) ctx [] props = .error err := by
  unfold validateHashMap
  by_cases permitted : q.permits x = true
  · simp [permitted]
  · simp only [permitted, Bool.false_eq_true, if_false, true_and]
    cases x with
    | object cls props =>
        by_cases sized : hasLength args props.length = true
        · simp [sized, compiles, values]
        · simpa [sized, mismatch] using mismatchAt_hashMap_ne_error
    | _ => simpa [mismatch] using mismatchAt_hashMap_ne_error

theorem mismatchAt_hashMap {x : Value} {path : List String} {m : Mismatch}
    (reported : mismatchAt x .hashMap q (some args) path = .ok m) :
    m.rewrap x (hashMapTypeset q args) [] =
      ⟨x, hashMapTypeset q args, path, hashMapTypeset q args, none⟩ := by
  obtain ⟨ts, fq, -, full, rfl⟩ := mismatchAt_eq_ok.mp reported
  cases full
  rfl

theorem validateHashMap_succeeds_iff {keyExp : Option Pattern.Compiled}
    (values : typesetArg args "$values" = some T) (compiles : keyPattern args = .ok keyExp)
    {x : Value} {ctx : Context} :
    Succeeds (validateHashMap recur x q (some args) ctx) ↔
      q.permits x = true ∨ ∃ cls props, x = .object cls props ∧
        hasLength args props.length = true ∧
        Succeeds (checkDictionary recur x q args keyExp (some T) ctx [] props) := by
  unfold validateHashMap
  by_cases permitted : q.permits x = true
  · simp [permitted, Succeeds]
  · simp only [permitted, Bool.false_eq_true, if_false, false_or]
    cases x with
    | object cls props =>
        by_cases sized : hasLength args props.length = true
        · simp [sized, compiles, values]
        · simp [sized, not_succeeds_mismatch]
    | _ => simp [not_succeeds_mismatch]

end Loop

section Engine

variable (e : Engine) {q : Qualifier} {args : Args} {T : Typeset}
  {keyExp : Option Pattern.Compiled}

theorem checkIn_hashMapTypeset {x : Value} {ctx : Context} (valid : ctx.validate = .ok ()) :
    e.checkIn x (hashMapTypeset q args) ctx =
      runValidator e e.checkIn x (hashMapTypeset q args) .hashMap q (some args) ctx := by
  have typed : e.checkIn x (hashMapTypeset q args) ctx =
      runValidator e (e.nested x) x (hashMapTypeset q args) .hashMap q (some args) ctx :=
    e.checkIn_typedUnit valid (v := x) (q := q) (t := .hashMap) fun a (_ : some args = some a) => rfl
  rw [typed]
  exact (runValidator_follows (.refl e x ctx)
    (recurFollows_of_agreeBelow (e.nested_agreeBelow x) ctx)).eq fun _ stop => stop

theorem checkIn_deepHashMap_succeeds (hasHashMap : e.has .hashMap = true)
    (values : typesetArg args "$values" = some T) (deep : Args.flag? args "deep" = some true)
    (compiles : keyPattern args = .ok keyExp) :
    ∀ (n : Nat) (x : Value) (ctx : Context), x.depth < n → ctx.validate = .ok () →
      (Succeeds (e.checkIn x (hashMapTypeset q args) ctx) ↔ DeepAccepts e q args T keyExp x ctx) := by
  intro n
  induction n with
  | zero => exact fun x ctx below => absurd below (Nat.not_lt_zero _)
  | succ n ih =>
      intro x ctx below valid
      rw [checkIn_hashMapTypeset e valid, succeeds_runValidator, and_iff_right hasHashMap]
      change Succeeds (validateHashMap e.checkIn x q (some args) ctx) ↔ _
      rw [validateHashMap_succeeds_iff values compiles]
      constructor
      · rintro (permitted | ⟨cls, props, rfl, sized, walked⟩)
        · exact .permitted permitted
        · rw [checkDictionary_succeeds_iff] at walked
          refine .object sized (fun k y member => (walked k y member).1) fun k y member => ?_
          have shallower : y.depth < (Value.object cls props).depth :=
            Value.depth_lt_of_mem_object member
          rcases (checkDictionaryValue_succeeds_iff deep).mp (walked k y member).2 with
            passes | ⟨refused, retried⟩
          · exact .passes passes
          · exact .retried refused
              ((ih y _ (by omega) (Context.validate_derive rfl _)).mp retried)
      · intro accepted
        cases accepted with
        | permitted permitted => exact .inl permitted
        | @object cls props _ sized keys accepted =>
            refine .inr ⟨cls, props, rfl, sized, checkDictionary_succeeds_iff.mpr
              fun k y member => ⟨keys k y member, ?_⟩⟩
            have shallower : y.depth < (Value.object cls props).depth :=
              Value.depth_lt_of_mem_object member
            rw [checkDictionaryValue_succeeds_iff deep]
            cases accepted k y member with
            | passes passes => exact .inl passes
            | retried refused retried =>
                exact .inr ⟨refused, (ih y _ (by omega) (Context.validate_derive rfl _)).mpr retried⟩

theorem dictionaryPasses_iff (hasHashMap : e.has .hashMap = true)
    (values : typesetArg args "$values" = some T) (deep : Args.flag? args "deep" = some true)
    (compiles : keyPattern args = .ok keyExp) {cls : Option String}
    {props : List (String × Value)} {ctx : Context} (k : String) (y : Value) :
    DictionaryPasses e.checkIn (.object cls props) q args keyExp (some T) ctx (k, y) ↔
      refusesKey keyExp (.string k) = false ∧
        DeepAcceptsValue e q args T keyExp y (ctx.derive (.object cls props) (some (.prop k))) := by
  have retried : Succeeds (e.checkIn y (hashMapTypeset q args)
      (ctx.derive (.object cls props) (some (.prop k)))) ↔
        DeepAccepts e q args T keyExp y (ctx.derive (.object cls props) (some (.prop k))) :=
    checkIn_deepHashMap_succeeds e hasHashMap values deep compiles (y.depth + 1) y _
      (Nat.lt_succ_self _) (Context.validate_derive rfl _)
  constructor
  · intro passes
    refine ⟨passes.accepted, ?_⟩
    rcases (checkDictionaryValue_succeeds_iff deep).mp (passes.valuePasses T rfl) with
      passesT | ⟨tRefuses, again⟩
    · exact .passes passesT
    · exact .retried tRefuses (retried.mp again)
  · rintro ⟨keyTaken, accepted⟩
    refine ⟨keyTaken, fun ts given => ?_⟩
    cases given
    rw [checkDictionaryValue_succeeds_iff deep]
    cases accepted with
    | passes passesT => exact .inl passesT
    | retried tRefuses again => exact .inr ⟨tRefuses, retried.mpr again⟩

/-- A deep hash map's errors are raised as `DeepError` says: the error of a property value's
check, against `T` or against the hash map once more, is the error of the whole check. -/
theorem checkIn_deepHashMap_error (hasHashMap : e.has .hashMap = true)
    (values : typesetArg args "$values" = some T) (deep : Args.flag? args "deep" = some true)
    (compiles : keyPattern args = .ok keyExp) {x : Value} {ctx : Context}
    (valid : ctx.validate = .ok ()) {err : TypesetError} :
    e.checkIn x (hashMapTypeset q args) ctx = .error err ↔ DeepError e q args T keyExp x ctx err := by
  rw [checkIn_hashMapTypeset e valid, runValidator_eq_error hasHashMap]
  change validateHashMap e.checkIn x q (some args) ctx = .error err ↔ _
  rw [validateHashMap_eq_error values compiles]
  constructor
  · rintro ⟨refused, cls, props, rfl, sized, walked⟩
    obtain ⟨before, k, y, after, propsEq, passed, keyTaken, raised⟩ :=
      checkDictionary_eq_error.mp walked
    refine .value refused sized propsEq (fun k' y' member => ?_) keyTaken
      ((checkDictionaryValue_eq_error deep).mp raised)
    exact (dictionaryPasses_iff e hasHashMap values deep compiles k' y').mp (passed _ member)
  · rintro ⟨refused, sized, propsEq, accepted, keyTaken, raised⟩
    refine ⟨refused, _, _, rfl, sized, checkDictionary_eq_error.mpr
      ⟨_, _, _, _, propsEq, fun p member => ?_, keyTaken,
        (checkDictionaryValue_eq_error deep).mpr raised⟩⟩
    obtain ⟨k', y'⟩ := p
    exact (dictionaryPasses_iff e hasHashMap values deep compiles k' y').mpr
      (accepted k' y' member)

theorem checkIn_deepHashMap_failure (hasHashMap : e.has .hashMap = true)
    (values : typesetArg args "$values" = some T) (deep : Args.flag? args "deep" = some true)
    (compiles : keyPattern args = .ok keyExp) {x : Value} {ctx : Context}
    (valid : ctx.validate = .ok ()) {m : Mismatch}
    (failed : e.checkIn x (hashMapTypeset q args) ctx = .ok (.failure m)) :
    DeepRefusal e q args T keyExp x ctx m := by
  rw [checkIn_hashMapTypeset e valid, runValidator_failure] at failed
  obtain ⟨-, m₀, walked, rfl⟩ := failed
  change validateHashMap e.checkIn x q (some args) ctx = .ok (.failure m₀) at walked
  unfold validateHashMap at walked
  split at walked
  · cases walked
  rename_i refused
  have own : ∀ {path : List String} {r : Except TypesetError Mismatch},
      r = mismatchAt x .hashMap q (some args) path → r.map Verdict.failure = .ok (.failure m₀) →
      m₀.rewrap x (hashMapTypeset q args) [] =
        ⟨x, hashMapTypeset q args, path, hashMapTypeset q args, none⟩ := by
    intro path r rEq mapped
    cases reported : r with
    | error err => simp [reported, Except.map] at mapped
    | ok m' =>
        simp only [reported, Except.map, Except.ok.injEq, Verdict.failure.injEq] at mapped
        subst mapped
        exact mismatchAt_hashMap (reported ▸ rEq).symm
  cases x with
  | object cls props =>
      simp only at walked
      split at walked
      · rename_i unsized
        rw [own rfl walked]
        exact .own (by simpa using refused) fun cls' props' same => by cases same; simpa using unsized
      · simp only [compiles, values, Option.isNone_some, Bool.and_false, Bool.false_eq_true,
          if_false] at walked
        obtain ⟨before, ⟨k, y⟩, after, propsEq, passed, stops⟩ := checkDictionary_failure walked
        have accepted : ∀ k' y', (k', y') ∈ before → refusesKey keyExp (.string k') = false ∧
            DeepAcceptsValue e q args T keyExp y'
              (ctx.derive (.object cls props) (some (.prop k'))) := fun k' y' member =>
          (dictionaryPasses_iff e hasHashMap values deep compiles k' y').mp (passed _ member)
        cases stops with
        | refused keyRefused reported =>
            rw [mismatchAt_hashMap reported]
            exact .key propsEq accepted keyRefused
        | valueFails keyAccepted given fails typed reported =>
            cases given
            obtain ⟨tRefuses, retried⟩ := (checkDictionaryValue_failure_iff deep).mp fails
            subst reported
            exact .value propsEq accepted keyAccepted tRefuses retried
  | _ =>
      rw [own rfl walked]
      exact .own (by simpa using refused) fun _ _ same => by cases same

end Engine

end Check

namespace Engine

/-- A deep hash map accepts exactly the trees of `Check.DeepAccepts`, reports a failure as
`Check.DeepRefusal` says, and raises exactly the errors of `Check.DeepError`: an error of a
property value's check is no refusal, and ends the whole check with that error.  With a
validator for `hashMap`, a `$values` typeset `T`, `deep` set and a key pattern that compiles, in
a consistent context. -/
theorem checkIn_deepHashMap (e : Engine) (hasHashMap : e.has .hashMap = true) (q : Qualifier)
    (args : Args) (T : Typeset) (keyExp : Option Pattern.Compiled)
    (values : Check.typesetArg args "$values" = some T) (deep : Args.flag? args "deep" = some true)
    (compiles : Check.keyPattern args = .ok keyExp) (x : Value) (ctx : Context)
    (valid : ctx.validate = .ok ()) :
    ((∃ mvv, e.checkIn x (Check.hashMapTypeset q args) ctx = .ok (.success mvv)) ↔
        Check.DeepAccepts e q args T keyExp x ctx) ∧
      (∀ m, e.checkIn x (Check.hashMapTypeset q args) ctx = .ok (.failure m) →
        Check.DeepRefusal e q args T keyExp x ctx m) ∧
      ∀ err, e.checkIn x (Check.hashMapTypeset q args) ctx = .error err ↔
        Check.DeepError e q args T keyExp x ctx err :=
  ⟨Check.checkIn_deepHashMap_succeeds e hasHashMap values deep compiles _ x ctx
      (Nat.lt_succ_self _) valid,
    fun _ failed => Check.checkIn_deepHashMap_failure e hasHashMap values deep compiles valid failed,
    fun _ => Check.checkIn_deepHashMap_error e hasHashMap values deep compiles valid⟩

/-- `{a: 1, b: {c: 2, d: 3}}` is a tree of finite numbers: `b` fails `finite` and is accepted as
a hash map in turn. -/
theorem checkIn_deepHashMap_nestedNumbers :
    Check.DeepAccepts (standard fun _ _ => .ok true) .required
      [("$values", .typeset (.type .finite)), ("deep", .data (.bool true))] (.type .finite) none
      (.object none [("a", .number 1), ("b", .object none [("c", .number 2), ("d", .number 3)])])
      (Context.root
        (.object none [("a", .number 1), ("b", .object none [("c", .number 2), ("d", .number 3)])])) :=
  (checkIn_deepHashMap _ rfl .required _ _ none rfl rfl rfl _ _ rfl).1.mp ⟨_, rfl⟩

/-- A deep hash map whose values' typeset `["object", {"$": {"a": []}}]` holds an invalid
nested typeset: the empty object is accepted on its own, having no property, but as the value
of a property it is first checked against that typeset, which raises an error. -/
theorem deepHashMap_errorInValue :
    (standard fun _ _ => .ok true).check (.object none [])
        (Check.hashMapTypeset .required
          [("$values", .typeset (.list [.form (.type .object),
            .args [("$", .typeset (.shape [("a", some (.list []))]))]])),
          ("deep", .data (.bool true))]) = .ok (.success (.object none [])) ∧
      ∃ err, (standard fun _ _ => .ok true).check (.object none [("k", .object none [])])
        (Check.hashMapTypeset .required
          [("$values", .typeset (.list [.form (.type .object),
            .args [("$", .typeset (.shape [("a", some (.list []))]))]])),
          ("deep", .data (.bool true))]) = .error err :=
  ⟨rfl, _, rfl⟩

end Engine

end Conformance
