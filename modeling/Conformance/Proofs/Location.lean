import Conformance.Check.Run

/-!
# Where a failure is reported

A composite validator checks its children one after the other and stops at the first that
fails: the elements of an array by index, the typed properties of a shape in the order the
shape declares them (an absent property is checked as `undefined`), the properties of a
`hashMap` in insertion order, the entries of a `map` in order with the key before the value,
and the elements of a set in order.  The failure it reports is the child's, moved up one
level: the composite's value and typeset, one path segment in front of the child's path, and
the child's mismatch and root cause unchanged.  The segment names the child: the decimal
index, the bare property name, `valueKey=` and the key, or `key=` and the key or element.

Each loop gets two laws.  The inversion says that a failure of the loop comes from a child
that every earlier child lets pass (or, for the keyed collections, from a key that the key
pattern refuses); the equation says that such a child decides the loop's answer, whatever
follows it, so no later child is checked.  Last, a failure of a whole check stands at the
value and typeset that were checked: the engine rewraps every failure it passes up, keeping
its path, mismatch and root cause.
-/

namespace Conformance

namespace Check

/-- A check that accepts its value, with some minimum viable value. -/
def Succeeds (r : Except TypesetError Verdict) : Prop :=
  ∃ mvv, r = .ok (.success mvv)

theorem mismatchAt_eq_ok {v : Value} {t : TypeName} {q : Qualifier} {args : Option Args}
    {path : List String} {m : Mismatch} :
    mismatchAt v t q args path = .ok m ↔
      ∃ ts fq, typesetOf t (some q) args false = .ok ts ∧ typesetOf t (some q) args true = .ok fq ∧
        m = ⟨v, ts, path, fq, none⟩ := by
  unfold mismatchAt
  cases written : typesetOf t (some q) args false <;> cases full : typesetOf t (some q) args true <;>
    simp [bind, Except.bind, pure, Except.pure, eq_comm]

theorem childFailure_eq_failure {v : Value} {t : TypeName} {q : Qualifier} {args : Option Args}
    {segment : String} {child m : Mismatch} :
    childFailure v t q args segment child = .ok (.failure m) ↔
      ∃ ts, typesetOf t (some q) args false = .ok ts ∧ m = child.rewrap v ts [segment] := by
  unfold childFailure
  cases typesetOf t (some q) args false with
  | error err => simp [Except.map]
  | ok ts =>
      simp only [Except.map, Except.ok.injEq, Verdict.failure.injEq]
      exact ⟨fun reported => ⟨ts, rfl, reported.symm⟩, fun ⟨_, same, reported⟩ => by
        cases same
        exact reported.symm⟩

section Elements

variable {recur : Recur} {arr : Value} {ts : Typeset} {ctx : Context} {t : TypeName}
  {q : Qualifier} {args : Option Args}

theorem checkElements_firstFailing {x : Value} {after : List Value} {child : Mismatch} :
    ∀ {before : List Value} {i : Nat} {acc : List Value},
      (∀ y ∈ before.zipIdx i, Succeeds (recur y.1 ts (ctx.derive arr (some (.index y.2))))) →
      recur x ts (ctx.derive arr (some (.index (i + before.length)))) = .ok (.failure child) →
      checkElements recur arr ts ctx t q args i acc (before ++ x :: after) =
        childFailure arr t q args (toString (i + before.length)) child
  | [], i, acc, _, fails => by
      simp only [List.length_nil, Nat.add_zero] at fails ⊢
      simp [checkElements, fails]
  | y :: before, i, acc, passed, fails => by
      rw [List.zipIdx_cons, List.forall_mem_cons] at passed
      obtain ⟨⟨mvv, accepted⟩, restPassed⟩ := passed
      have index : i + (y :: before).length = i + 1 + before.length := by
        simp only [List.length_cons]
        omega
      rw [index] at fails ⊢
      simp only [List.cons_append, checkElements]
      rw [accepted]
      exact checkElements_firstFailing restPassed fails

theorem checkElements_failure {m : Mismatch} :
    ∀ {items : List Value} {i : Nat} {acc : List Value},
      checkElements recur arr ts ctx t q args i acc items = .ok (.failure m) →
      ∃ before x after child, items = before ++ x :: after ∧
        (∀ y ∈ before.zipIdx i, Succeeds (recur y.1 ts (ctx.derive arr (some (.index y.2))))) ∧
        recur x ts (ctx.derive arr (some (.index (i + before.length)))) = .ok (.failure child) ∧
        childFailure arr t q args (toString (i + before.length)) child = .ok (.failure m)
  | [], _, _, failed => by simp [checkElements] at failed
  | x :: rest, i, acc, failed => by
      simp only [checkElements] at failed
      split at failed
      · cases failed
      · rename_i mvv accepted
        obtain ⟨before, y, after, child, rfl, passed, fails, reported⟩ := checkElements_failure failed
        have index : i + (x :: before).length = i + 1 + before.length := by
          simp only [List.length_cons]
          omega
        refine ⟨x :: before, y, after, child, rfl, ?_, ?_, ?_⟩
        · rw [List.zipIdx_cons, List.forall_mem_cons]
          exact ⟨⟨mvv, accepted⟩, passed⟩
        · rwa [index]
        · rwa [index]
      · rename_i child fails
        exact ⟨[], x, rest, child, rfl, by simp, by simpa using fails, by simpa using failed⟩

end Elements

section Shape

variable {recur : Recur} {v : Value} {shape : List (String × Option Typeset)} {ctx : Context}

theorem checkShape_firstFailing {k : String} {ts : Typeset} {after : List (String × Option Typeset)}
    {child : Mismatch} :
    ∀ {before : List (String × Option Typeset)} {acc : List (String × Value)},
      (∀ k' ts', (k', some ts') ∈ before →
        Succeeds (recur ((Value.prop? (propsOf v) k').getD .undefined) ts'
          (ctx.derive v (some (.prop k'))))) →
      recur ((Value.prop? (propsOf v) k).getD .undefined) ts (ctx.derive v (some (.prop k))) =
        .ok (.failure child) →
      checkShape recur v shape ctx acc (before ++ (k, some ts) :: after) =
        .ok (.failure (child.rewrap v (.shape shape) [k]))
  | [], acc, _, fails => by simp [checkShape, fails]
  | (k', none) :: before, acc, passed, fails => by
      simp only [List.cons_append, checkShape]
      exact checkShape_firstFailing
        (fun k'' ts'' member => passed k'' ts'' (List.mem_cons_of_mem _ member)) fails
  | (k', some ts') :: before, acc, passed, fails => by
      obtain ⟨mvv, accepted⟩ := passed k' ts' List.mem_cons_self
      simp only [List.cons_append, checkShape]
      rw [accepted]
      exact checkShape_firstFailing
        (fun k'' ts'' member => passed k'' ts'' (List.mem_cons_of_mem _ member)) fails

theorem checkShape_failure {m : Mismatch} :
    ∀ {acc : List (String × Value)} {rest : List (String × Option Typeset)},
      checkShape recur v shape ctx acc rest = .ok (.failure m) →
      ∃ before k ts after child, rest = before ++ (k, some ts) :: after ∧
        (∀ k' ts', (k', some ts') ∈ before →
          Succeeds (recur ((Value.prop? (propsOf v) k').getD .undefined) ts'
            (ctx.derive v (some (.prop k'))))) ∧
        recur ((Value.prop? (propsOf v) k).getD .undefined) ts (ctx.derive v (some (.prop k))) =
          .ok (.failure child) ∧
        m = child.rewrap v (.shape shape) [k]
  | _, [], failed => by simp [checkShape] at failed
  | acc, (k, none) :: rest, failed => by
      simp only [checkShape] at failed
      obtain ⟨before, k', ts, after, child, rfl, passed, fails, reported⟩ := checkShape_failure failed
      refine ⟨(k, none) :: before, k', ts, after, child, rfl, ?_, fails, reported⟩
      intro k'' ts'' member
      rcases List.mem_cons.mp member with untyped | later
      · simp at untyped
      · exact passed k'' ts'' later
  | acc, (k, some ts) :: rest, failed => by
      simp only [checkShape] at failed
      split at failed
      · cases failed
      · rename_i mvv accepted
        obtain ⟨before, k', ts', after, child, rfl, passed, fails, reported⟩ :=
          checkShape_failure failed
        refine ⟨(k, some ts) :: before, k', ts', after, child, rfl, ?_, fails, reported⟩
        intro k'' ts'' member
        rcases List.mem_cons.mp member with same | later
        · simp only [Prod.mk.injEq, Option.some.injEq] at same
          obtain ⟨rfl, rfl⟩ := same
          exact ⟨mvv, accepted⟩
        · exact passed k'' ts'' later
      · rename_i child fails
        cases failed
        exact ⟨[], k, ts, rest, child, rfl, by simp, fails, rfl⟩

end Shape

section Members

variable {recur : Recur} {v : Value} {q : Qualifier} {args : Args} {ts : Typeset} {ctx : Context}

theorem checkMembers_firstFailing {x : Value} {after : List Value} {child : Mismatch} :
    ∀ {before acc : List Value}, (∀ y ∈ before, Succeeds (recur y ts (ctx.derive v none))) →
      recur x ts (ctx.derive v none) = .ok (.failure child) →
      checkMembers recur v q args ts ctx acc (before ++ x :: after) =
        childFailure v .set q (some args) (keySegment "key" x) child
  | [], acc, _, fails => by simp [checkMembers, fails]
  | y :: before, acc, passed, fails => by
      obtain ⟨⟨mvv, accepted⟩, restPassed⟩ := List.forall_mem_cons.mp passed
      simp only [List.cons_append, checkMembers]
      rw [accepted]
      exact checkMembers_firstFailing restPassed fails

theorem checkMembers_failure {m : Mismatch} :
    ∀ {acc items : List Value}, checkMembers recur v q args ts ctx acc items = .ok (.failure m) →
      ∃ before x after child, items = before ++ x :: after ∧
        (∀ y ∈ before, Succeeds (recur y ts (ctx.derive v none))) ∧
        recur x ts (ctx.derive v none) = .ok (.failure child) ∧
        childFailure v .set q (some args) (keySegment "key" x) child = .ok (.failure m)
  | _, [], failed => by simp [checkMembers] at failed
  | acc, x :: rest, failed => by
      simp only [checkMembers] at failed
      split at failed
      · cases failed
      · rename_i mvv accepted
        obtain ⟨before, y, after, child, rfl, passed, fails, reported⟩ :=
          checkMembers_failure failed
        exact ⟨x :: before, y, after, child, rfl,
          List.forall_mem_cons.mpr ⟨⟨mvv, accepted⟩, passed⟩, fails, reported⟩
      · rename_i child fails
        exact ⟨[], x, rest, child, rfl, by simp, fails, failed⟩

end Members

section Dictionary

variable (recur : Recur) (v : Value) (q : Qualifier) (args : Args)
  (keyExp : Option Pattern.Compiled) (valuesTs : Option Typeset) (ctx : Context)

/-- A property of a dictionary that the dictionary's walk passes: the key pattern takes its
key, and its value passes `$values`. -/
structure DictionaryPasses (p : String × Value) : Prop where
  accepted : refusesKey keyExp (.string p.1) = false
  valuePasses : ∀ ts, valuesTs = some ts →
    Succeeds (checkDictionaryValue recur q args ts p.2 (ctx.derive v (some (.prop p.1))))

/-- How a dictionary's walk stops at a property with failure `m`. -/
inductive DictionaryStops : String × Value → Mismatch → Prop
  /-- The key pattern refuses the key: the dictionary's own mismatch, at `key=` and the key. -/
  | refused {k : String} {x : Value} {m : Mismatch} :
      refusesKey keyExp (.string k) = true →
      mismatchAt v .hashMap q (some args) [keySegment "key" (.string k)] = .ok m →
      DictionaryStops (k, x) m
  /-- The value fails: its failure, moved up under `valueKey=` and the key. -/
  | valueFails {k : String} {x : Value} {ts ts' : Typeset} {child m : Mismatch} :
      refusesKey keyExp (.string k) = false → valuesTs = some ts →
      checkDictionaryValue recur q args ts x (ctx.derive v (some (.prop k))) =
        .ok (.failure child) →
      typesetOf .hashMap (some q) (some args) false = .ok ts' →
      m = child.rewrap v ts' [keySegment "valueKey" (.string k)] →
      DictionaryStops (k, x) m

variable {recur v q args keyExp valuesTs ctx}

theorem checkDictionary_skip {rest before : List (String × Value)} :
    ∀ {acc : List (String × Value)},
      (∀ p ∈ before, DictionaryPasses recur v q args keyExp valuesTs ctx p) →
      ∃ acc', checkDictionary recur v q args keyExp valuesTs ctx acc (before ++ rest) =
        checkDictionary recur v q args keyExp valuesTs ctx acc' rest := by
  induction before with
  | nil => exact fun {acc} _ => ⟨acc, rfl⟩
  | cons p before ih =>
      intro acc passed
      obtain ⟨k, x⟩ := p
      obtain ⟨first, restPassed⟩ := List.forall_mem_cons.mp passed
      simp only [List.cons_append, checkDictionary, first.accepted, Bool.false_eq_true, if_false]
      cases valuesTs with
      | none => exact ih restPassed
      | some ts =>
          obtain ⟨mvv, accepted⟩ := first.valuePasses ts rfl
          simp only [accepted]
          exact ih restPassed

theorem checkDictionary_firstFailing {before after acc : List (String × Value)}
    {p : String × Value} {m : Mismatch}
    (passed : ∀ p' ∈ before, DictionaryPasses recur v q args keyExp valuesTs ctx p')
    (stops : DictionaryStops recur v q args keyExp valuesTs ctx p m) :
    checkDictionary recur v q args keyExp valuesTs ctx acc (before ++ p :: after) =
      .ok (.failure m) := by
  obtain ⟨acc', skipped⟩ : ∃ acc', checkDictionary recur v q args keyExp valuesTs ctx acc
      (before ++ p :: after) = checkDictionary recur v q args keyExp valuesTs ctx acc' (p :: after) :=
    checkDictionary_skip passed
  rw [skipped]
  cases stops with
  | refused refused reported => simp [checkDictionary, refused, reported, Except.map]
  | valueFails accepted given fails typed reported =>
      subst given
      simp only [checkDictionary, accepted, Bool.false_eq_true, if_false, fails]
      exact childFailure_eq_failure.mpr ⟨_, typed, reported⟩

theorem checkDictionary_failure {m : Mismatch} {props : List (String × Value)} :
    ∀ {acc : List (String × Value)},
      checkDictionary recur v q args keyExp valuesTs ctx acc props = .ok (.failure m) →
      ∃ before p after, props = before ++ p :: after ∧
        (∀ p' ∈ before, DictionaryPasses recur v q args keyExp valuesTs ctx p') ∧
        DictionaryStops recur v q args keyExp valuesTs ctx p m := by
  induction props with
  | nil => intro acc failed; simp [checkDictionary] at failed
  | cons p rest ih =>
      intro acc failed
      obtain ⟨k, x⟩ := p
      simp only [checkDictionary] at failed
      split at failed
      · rename_i refused
        cases reported : mismatchAt v .hashMap q (some args) [keySegment "key" (.string k)] with
        | error err => simp [reported, Except.map] at failed
        | ok m' =>
            simp only [reported, Except.map, Except.ok.injEq, Verdict.failure.injEq] at failed
            subst failed
            exact ⟨[], (k, x), rest, rfl, by simp, .refused refused reported⟩
      · rename_i accepted
        simp only [Bool.not_eq_true] at accepted
        cases valuesTs with
        | none =>
            obtain ⟨before, p, after, rfl, passed, stops⟩ := ih failed
            exact ⟨(k, x) :: before, p, after, rfl,
              List.forall_mem_cons.mpr ⟨⟨accepted, fun _ given => nomatch given⟩, passed⟩, stops⟩
        | some ts =>
            simp only at failed
            split at failed
            · cases failed
            · rename_i mvv valuePassed
              obtain ⟨before, p, after, rfl, passed, stops⟩ := ih failed
              have first : DictionaryPasses recur v q args keyExp (some ts) ctx (k, x) :=
                ⟨accepted, fun _ given => by cases given; exact ⟨mvv, valuePassed⟩⟩
              exact ⟨(k, x) :: before, p, after, rfl, List.forall_mem_cons.mpr ⟨first, passed⟩,
                stops⟩
            · rename_i child fails
              obtain ⟨ts', typed, reported⟩ := childFailure_eq_failure.mp failed
              exact ⟨[], (k, x), rest, rfl, by simp, .valueFails accepted rfl fails typed reported⟩

end Dictionary

section Optional

variable {recur : Recur} {ts? : Option Typeset} {x : Value} {cctx : Context}

theorem checkOptional_passes (passes : ∀ ts, ts? = some ts → Succeeds (recur x ts cctx)) :
    ∃ mvv, checkOptional recur ts? x cctx = .ok (.ok mvv) := by
  cases ts? with
  | none => exact ⟨.undefined, rfl⟩
  | some ts =>
      obtain ⟨mvv, accepted⟩ := passes ts rfl
      exact ⟨mvv, by simp [checkOptional, accepted]⟩

theorem checkOptional_ok {mvv : Value} (checked : checkOptional recur ts? x cctx = .ok (.ok mvv)) :
    ∀ ts, ts? = some ts → Succeeds (recur x ts cctx) := by
  intro ts given
  subst given
  simp only [checkOptional] at checked
  split at checked
  · cases checked
  · exact ⟨_, by assumption⟩
  · cases checked

theorem checkOptional_failure {m : Mismatch} :
    checkOptional recur ts? x cctx = .ok (.error m) ↔
      ∃ ts, ts? = some ts ∧ recur x ts cctx = .ok (.failure m) := by
  cases ts? with
  | none => simp [checkOptional]
  | some ts =>
      simp only [checkOptional, Option.some.injEq, exists_eq_left']
      split <;> simp_all

end Optional

section Entries

variable (recur : Recur) (v : Value) (q : Qualifier) (args : Args) (keysTs : Option Typeset)
  (keyExp : Option Pattern.Compiled) (valuesTs : Option Typeset) (ctx : Context)

/-- An entry of a map that the map's walk passes: its key passes `$keys` and the key pattern,
and its value passes `$values`. -/
structure EntryPasses (e : Value × Value) : Prop where
  keyPasses : ∀ ts, keysTs = some ts → Succeeds (recur e.1 ts (ctx.derive v none))
  accepted : refusesKey keyExp e.1 = false
  valuePasses : ∀ ts, valuesTs = some ts →
    Succeeds (recur e.2 ts (ctx.derive v (some (.key e.1))))

/-- How a map's walk stops at an entry with failure `m`: the key is checked against `$keys`,
then against the key pattern, and only then the value against `$values`. -/
inductive EntryStops : Value × Value → Mismatch → Prop
  /-- The key fails: its failure, moved up under `key=` and the key. -/
  | keyFails {key x : Value} {ts ts' : Typeset} {child m : Mismatch} :
      keysTs = some ts → recur key ts (ctx.derive v none) = .ok (.failure child) →
      typesetOf .map (some q) (some args) false = .ok ts' →
      m = child.rewrap v ts' [keySegment "key" key] →
      EntryStops (key, x) m
  /-- The key pattern refuses the key: the map's own mismatch, at `key=` and the key. -/
  | refused {key x : Value} {m : Mismatch} :
      (∀ keyTs, keysTs = some keyTs → Succeeds (recur key keyTs (ctx.derive v none))) →
      refusesKey keyExp key = true →
      mismatchAt v .map q (some args) [keySegment "key" key] = .ok m →
      EntryStops (key, x) m
  /-- The value fails: its failure, moved up under `valueKey=` and the key. -/
  | valueFails {key x : Value} {ts ts' : Typeset} {child m : Mismatch} :
      (∀ keyTs, keysTs = some keyTs → Succeeds (recur key keyTs (ctx.derive v none))) →
      refusesKey keyExp key = false → valuesTs = some ts →
      recur x ts (ctx.derive v (some (.key key))) = .ok (.failure child) →
      typesetOf .map (some q) (some args) false = .ok ts' →
      m = child.rewrap v ts' [keySegment "valueKey" key] →
      EntryStops (key, x) m

variable {recur v q args keysTs keyExp valuesTs ctx}

theorem checkEntries_skip {rest before : List (Value × Value)} :
    ∀ {acc : List (Value × Value)},
      (∀ e ∈ before, EntryPasses recur v keysTs keyExp valuesTs ctx e) →
      ∃ acc', checkEntries recur v q args keysTs keyExp valuesTs ctx acc (before ++ rest) =
        checkEntries recur v q args keysTs keyExp valuesTs ctx acc' rest := by
  induction before with
  | nil => exact fun {acc} _ => ⟨acc, rfl⟩
  | cons e before ih =>
      intro acc passed
      obtain ⟨key, x⟩ := e
      obtain ⟨first, restPassed⟩ := List.forall_mem_cons.mp passed
      obtain ⟨keyMvv, keyChecked⟩ := checkOptional_passes first.keyPasses
      obtain ⟨valueMvv, valueChecked⟩ := checkOptional_passes first.valuePasses
      simp only [List.cons_append, checkEntries, keyChecked, first.accepted, Bool.false_eq_true,
        if_false, valueChecked]
      exact ih restPassed

theorem checkEntries_firstFailing {before after acc : List (Value × Value)}
    {e : Value × Value} {m : Mismatch}
    (passed : ∀ e' ∈ before, EntryPasses recur v keysTs keyExp valuesTs ctx e')
    (stops : EntryStops recur v q args keysTs keyExp valuesTs ctx e m) :
    checkEntries recur v q args keysTs keyExp valuesTs ctx acc (before ++ e :: after) =
      .ok (.failure m) := by
  obtain ⟨acc', skipped⟩ : ∃ acc', checkEntries recur v q args keysTs keyExp valuesTs ctx acc
      (before ++ e :: after) =
        checkEntries recur v q args keysTs keyExp valuesTs ctx acc' (e :: after) :=
    checkEntries_skip passed
  rw [skipped]
  cases stops with
  | keyFails given fails typed reported =>
      have keyFailed := checkOptional_failure.mpr ⟨_, given, fails⟩
      simp only [checkEntries, keyFailed]
      exact childFailure_eq_failure.mpr ⟨_, typed, reported⟩
  | refused keyPasses refused reported =>
      obtain ⟨keyMvv, keyChecked⟩ := checkOptional_passes keyPasses
      simp [checkEntries, keyChecked, refused, reported, Except.map]
  | valueFails keyPasses accepted given fails typed reported =>
      obtain ⟨keyMvv, keyChecked⟩ := checkOptional_passes keyPasses
      have valueFailed := checkOptional_failure.mpr ⟨_, given, fails⟩
      simp only [checkEntries, keyChecked, accepted, Bool.false_eq_true, if_false, valueFailed]
      exact childFailure_eq_failure.mpr ⟨_, typed, reported⟩

theorem checkEntries_failure {m : Mismatch} {entries : List (Value × Value)} :
    ∀ {acc : List (Value × Value)},
      checkEntries recur v q args keysTs keyExp valuesTs ctx acc entries = .ok (.failure m) →
      ∃ before e after, entries = before ++ e :: after ∧
        (∀ e' ∈ before, EntryPasses recur v keysTs keyExp valuesTs ctx e') ∧
        EntryStops recur v q args keysTs keyExp valuesTs ctx e m := by
  induction entries with
  | nil => intro acc failed; simp [checkEntries] at failed
  | cons e rest ih =>
      intro acc failed
      obtain ⟨key, x⟩ := e
      simp only [checkEntries] at failed
      split at failed
      · cases failed
      · rename_i child keyFailed
        obtain ⟨ts, given, fails⟩ := checkOptional_failure.mp keyFailed
        obtain ⟨ts', typed, reported⟩ := childFailure_eq_failure.mp failed
        exact ⟨[], (key, x), rest, rfl, by simp, .keyFails given fails typed reported⟩
      · rename_i keyMvv keyChecked
        have keyPasses := checkOptional_ok keyChecked
        by_cases refused : refusesKey keyExp key = true
        · rw [if_pos refused] at failed
          cases reported : mismatchAt v .map q (some args) [keySegment "key" key] with
          | error err => simp [reported, Except.map] at failed
          | ok m' =>
              simp only [reported, Except.map, Except.ok.injEq, Verdict.failure.injEq] at failed
              subst failed
              exact ⟨[], (key, x), rest, rfl, by simp, .refused keyPasses refused reported⟩
        · rw [if_neg refused] at failed
          have accepted : refusesKey keyExp key = false := by simpa using refused
          split at failed
          · cases failed
          · rename_i child valueFailed
            obtain ⟨ts, given, fails⟩ := checkOptional_failure.mp valueFailed
            obtain ⟨ts', typed, reported⟩ := childFailure_eq_failure.mp failed
            exact ⟨[], (key, x), rest, rfl, by simp,
              .valueFails keyPasses accepted given fails typed reported⟩
          · rename_i valueMvv valueChecked
            obtain ⟨before, e, after, rfl, passed, stops⟩ := ih failed
            have first : EntryPasses recur v keysTs keyExp valuesTs ctx (key, x) :=
              ⟨keyPasses, accepted, checkOptional_ok valueChecked⟩
            exact ⟨(key, x) :: before, e, after, rfl, List.forall_mem_cons.mpr ⟨first, passed⟩,
              stops⟩

end Entries

section Engine

variable {e : Engine} {recur : Recur} {v : Value} {ts : Typeset} {ctx : Context} {m : Mismatch}

theorem runValidator_failure {t : TypeName} {q : Qualifier} {args : Option Args} :
    runValidator e recur v ts t q args ctx = .ok (.failure m) ↔
      e.has t = true ∧
        ∃ m', validateType recur t v q args ctx = .ok (.failure m') ∧ m = m'.rewrap v ts [] := by
  unfold runValidator
  by_cases known : e.has t = true
  · simp only [known, Bool.not_true, Bool.false_eq_true, if_false, true_and]
    split
    · rename_i m' failed
      simp only [Except.ok.injEq, Verdict.failure.injEq, failed]
      exact ⟨fun reported => ⟨m', rfl, reported.symm⟩,
        fun ⟨_, same, reported⟩ => by cases same; exact reported.symm⟩
    · rename_i notFailure
      exact ⟨fun failed => absurd failed (notFailure m),
        fun ⟨m', failed, _⟩ => absurd failed (notFailure m')⟩
  · simp [known]

theorem runValidator_failure_at {t : TypeName} {q : Qualifier} {args : Option Args}
    (failed : runValidator e recur v ts t q args ctx = .ok (.failure m)) :
    m.value = v ∧ m.typeset = ts := by
  obtain ⟨_, m', _, reported⟩ := runValidator_failure.mp failed
  subst reported
  exact ⟨rfl, rfl⟩

theorem runValidator_eq_error {t : TypeName} {q : Qualifier} {args : Option Args}
    {err : TypesetError} (known : e.has t = true) :
    runValidator e recur v ts t q args ctx = .error err ↔
      validateType recur t v q args ctx = .error err := by
  unfold runValidator
  simp only [known, Bool.not_true, Bool.false_eq_true, if_false]
  split
  · rename_i m' failed
    simp [failed]
  · rfl

theorem matchValidator_failure_at {name : String}
    (failed : matchValidator e recur v ts name ctx = .ok (.failure m)) :
    m.value = v ∧ m.typeset = ts := by
  have anyPasses : ∀ m', matchType e recur v (.type .any) ctx none ≠ .ok (.failure m') := by
    intro m' anyFailed
    simp only [matchType] at anyFailed
    obtain ⟨_, m'', refused, _⟩ := runValidator_failure.mp anyFailed
    simp [validateType, validatePredicate, TypeName.holds] at refused
  unfold matchValidator at failed
  simp only at failed
  split at failed
  · cases failed
  · rename_i m' anyFailed
    exact absurd anyFailed (anyPasses m')
  · rename_i verdict _ accepted
    split at failed
    · cases failed
    · cases failed
      exact absurd accepted (anyPasses m)
    · cases failed
      exact ⟨rfl, rfl⟩

theorem matchAlternatives_failure_at {rules : List Rule} {q : Option Qualifier}
    (failed : matchAlternatives e recur v ts rules ctx q = .ok (.failure m)) :
    m.value = v ∧ m.typeset = ts := by
  unfold matchAlternatives at failed
  simp only at failed
  split at failed
  · cases failed
  · rename_i lone _
    simp only [Except.ok.injEq, Verdict.failure.injEq] at failed
    subst failed
    split <;> exact ⟨rfl, rfl⟩
  · split at failed
    · split at failed
      · cases failed
      · cases failed
      · cases failed
        exact ⟨rfl, rfl⟩
    · cases failed

theorem matchAlternatives_lone {rules unit : List Rule} {override : Option Qualifier}
    (whole : Rule.nextUnit rules 0 .exclude = (unit, rules.length)) (nonempty : unit ≠ [])
    (notValidator : ∀ name, unit ≠ [.form (.validator name)])
    (refused : matchType e recur v (.list unit) ctx (some (override.getD ts.qualifier)) =
      .ok (.failure m)) :
    matchAlternatives e recur v ts rules ctx override = .ok (.failure (m.rewrap v ts [])) := by
  obtain ⟨n, lengthEq⟩ : ∃ n, rules.length = n + 1 := by
    cases rules with
    | nil => exact absurd (by simpa [Rule.nextUnit] using whole.symm) nonempty
    | cons r rest => exact ⟨rest.length, rfl⟩
  have atEnd : Rule.nextUnit rules rules.length .exclude = ([], rules.length) := by
    simp [Rule.nextUnit]
  have unitNonempty : unit.isEmpty = false := List.isEmpty_eq_false_iff.mpr nonempty
  have lone : ∀ impliesAny, tryAlternatives e recur v rules ctx (override.getD ts.qualifier)
      impliesAny (rules.length + 1) 0 none none = .ok (none, some m) := by
    intro impliesAny
    rw [lengthEq, tryAlternatives]
    simp only [whole, unitNonempty, Bool.false_eq_true, if_false, refused]
    rw [tryAlternatives]
    simp [atEnd]
  unfold matchAlternatives
  simp only [lone]

theorem checkStep_failure_at (failed : checkStep e recur v ts ctx = .ok (.failure m)) :
    m.value = v ∧ m.typeset = ts := by
  simp only [checkStep] at failed
  split at failed
  · cases failed
  · split at failed
    · cases failed
    · cases ts with
      | type t => exact runValidator_failure_at failed
      | shape props => exact runValidator_failure_at failed
      | validator name => exact matchValidator_failure_at failed
      | list rules => exact matchAlternatives_failure_at failed

end Engine

/-- Where a check reports a failure.  Each composite validator's walk over its children fails
exactly at the first child whose check fails after children that all pass (or, for the keyed
collections, at the first key the key pattern refuses), whatever follows; the failure is the
child's, with the composite's value and typeset, one segment in front of its path, and its
mismatch and root cause kept.  A validator's failure is moved to the alternative it ran for in
the same way, as is the failure of a list's one alternative to the list, and a whole check fails
at the value and typeset it was given. -/
theorem failure_atFirstFailingChild :
    (∀ (recur : Recur) (arr : Value) (ts : Typeset) (ctx : Context) (t : TypeName)
        (q : Qualifier) (args : Option Args) (i : Nat) (acc items : List Value) (m : Mismatch),
      checkElements recur arr ts ctx t q args i acc items = .ok (.failure m) ↔
        ∃ before x after child ts', items = before ++ x :: after ∧
          (∀ y ∈ before.zipIdx i, Succeeds (recur y.1 ts (ctx.derive arr (some (.index y.2))))) ∧
          recur x ts (ctx.derive arr (some (.index (i + before.length)))) = .ok (.failure child) ∧
          typesetOf t (some q) args false = .ok ts' ∧
          m = child.rewrap arr ts' [toString (i + before.length)]) ∧
    (∀ (recur : Recur) (v : Value) (shape : List (String × Option Typeset)) (ctx : Context)
        (acc : List (String × Value)) (rest : List (String × Option Typeset)) (m : Mismatch),
      checkShape recur v shape ctx acc rest = .ok (.failure m) ↔
        ∃ before k ts after child, rest = before ++ (k, some ts) :: after ∧
          (∀ k' ts', (k', some ts') ∈ before →
            Succeeds (recur ((Value.prop? (propsOf v) k').getD .undefined) ts'
              (ctx.derive v (some (.prop k'))))) ∧
          recur ((Value.prop? (propsOf v) k).getD .undefined) ts (ctx.derive v (some (.prop k))) =
            .ok (.failure child) ∧
          m = child.rewrap v (.shape shape) [k]) ∧
    (∀ (recur : Recur) (v : Value) (q : Qualifier) (args : Args)
        (keyExp : Option Pattern.Compiled) (valuesTs : Option Typeset) (ctx : Context)
        (acc props : List (String × Value)) (m : Mismatch),
      checkDictionary recur v q args keyExp valuesTs ctx acc props = .ok (.failure m) ↔
        ∃ before p after, props = before ++ p :: after ∧
          (∀ p' ∈ before, DictionaryPasses recur v q args keyExp valuesTs ctx p') ∧
          DictionaryStops recur v q args keyExp valuesTs ctx p m) ∧
    (∀ (recur : Recur) (v : Value) (q : Qualifier) (args : Args) (keysTs : Option Typeset)
        (keyExp : Option Pattern.Compiled) (valuesTs : Option Typeset) (ctx : Context)
        (acc entries : List (Value × Value)) (m : Mismatch),
      checkEntries recur v q args keysTs keyExp valuesTs ctx acc entries = .ok (.failure m) ↔
        ∃ before e after, entries = before ++ e :: after ∧
          (∀ e' ∈ before, EntryPasses recur v keysTs keyExp valuesTs ctx e') ∧
          EntryStops recur v q args keysTs keyExp valuesTs ctx e m) ∧
    (∀ (recur : Recur) (v : Value) (q : Qualifier) (args : Args) (ts : Typeset) (ctx : Context)
        (acc items : List Value) (m : Mismatch),
      checkMembers recur v q args ts ctx acc items = .ok (.failure m) ↔
        ∃ before x after child ts', items = before ++ x :: after ∧
          (∀ y ∈ before, Succeeds (recur y ts (ctx.derive v none))) ∧
          recur x ts (ctx.derive v none) = .ok (.failure child) ∧
          typesetOf .set (some q) (some args) false = .ok ts' ∧
          m = child.rewrap v ts' [keySegment "key" x]) ∧
    (∀ (e : Engine) (recur : Recur) (v : Value) (ts : Typeset) (t : TypeName) (q : Qualifier)
        (args : Option Args) (ctx : Context) (m : Mismatch),
      runValidator e recur v ts t q args ctx = .ok (.failure m) ↔
        e.has t = true ∧
          ∃ m', validateType recur t v q args ctx = .ok (.failure m') ∧ m = m'.rewrap v ts []) ∧
    (∀ (e : Engine) (recur : Recur) (v : Value) (ts : Typeset) (rules unit : List Rule)
        (ctx : Context) (override : Option Qualifier) (m : Mismatch),
      Rule.nextUnit rules 0 .exclude = (unit, rules.length) → unit ≠ [] →
      (∀ name, unit ≠ [.form (.validator name)]) →
      matchType e recur v (.list unit) ctx (some (override.getD ts.qualifier)) =
        .ok (.failure m) →
      matchAlternatives e recur v ts rules ctx override = .ok (.failure (m.rewrap v ts []))) ∧
    (∀ (e : Engine) (v : Value) (t : Typeset) (ctx : Context) (m : Mismatch),
      e.checkIn v t ctx = .ok (.failure m) → m.value = v ∧ m.typeset = t) := by
  refine ⟨?elements, ?shapes, ?dictionaries, ?entries, ?members, ?validators, ?lone, ?checks⟩
  case elements =>
    intro recur arr ts ctx t q args i acc items m
    constructor
    · intro failed
      obtain ⟨before, x, after, child, split, passed, fails, reported⟩ :=
        checkElements_failure failed
      obtain ⟨ts', typed, rewrapped⟩ := childFailure_eq_failure.mp reported
      exact ⟨before, x, after, child, ts', split, passed, fails, typed, rewrapped⟩
    · rintro ⟨before, x, after, child, ts', rfl, passed, fails, typed, rewrapped⟩
      rw [checkElements_firstFailing passed fails]
      exact childFailure_eq_failure.mpr ⟨ts', typed, rewrapped⟩
  case shapes =>
    intro recur v shape ctx acc rest m
    constructor
    · exact checkShape_failure
    · rintro ⟨before, k, ts, after, child, rfl, passed, fails, rfl⟩
      exact checkShape_firstFailing passed fails
  case dictionaries =>
    intro recur v q args keyExp valuesTs ctx acc props m
    constructor
    · exact checkDictionary_failure
    · rintro ⟨before, p, after, rfl, passed, stops⟩
      exact checkDictionary_firstFailing passed stops
  case entries =>
    intro recur v q args keysTs keyExp valuesTs ctx acc entries m
    constructor
    · exact checkEntries_failure
    · rintro ⟨before, e, after, rfl, passed, stops⟩
      exact checkEntries_firstFailing passed stops
  case members =>
    intro recur v q args ts ctx acc items m
    constructor
    · intro failed
      obtain ⟨before, x, after, child, split, passed, fails, reported⟩ :=
        checkMembers_failure failed
      obtain ⟨ts', typed, rewrapped⟩ := childFailure_eq_failure.mp reported
      exact ⟨before, x, after, child, ts', split, passed, fails, typed, rewrapped⟩
    · rintro ⟨before, x, after, child, ts', rfl, passed, fails, typed, rewrapped⟩
      rw [checkMembers_firstFailing passed fails]
      exact childFailure_eq_failure.mpr ⟨ts', typed, rewrapped⟩
  case validators =>
    intro e recur v ts t q args ctx m
    exact runValidator_failure
  case lone =>
    intro e recur v ts rules unit ctx override m whole nonempty notValidator refused
    exact matchAlternatives_lone whole nonempty notValidator refused
  case checks =>
    intro e v t ctx m failed
    exact checkStep_failure_at failed

/-- A string array whose second element is a number fails there, at the array and its
typeset. -/
theorem failure_atFirstFailingChild_stringArray :
    ∃ m, (Engine.standard fun _ _ => .ok true).checkIn (.array [.string "a", .number 1])
        (.list [.form (.type .array), .args [("$", .typeset (.type .string))]])
        (Context.root (.array [.string "a", .number 1])) = .ok (.failure m) ∧
      m.value = .array [.string "a", .number 1] ∧
      m.typeset = .list [.form (.type .array), .args [("$", .typeset (.type .string))]] := by
  obtain ⟨m, failed⟩ : ∃ m, (Engine.standard fun _ _ => .ok true).checkIn
      (.array [.string "a", .number 1])
      (.list [.form (.type .array), .args [("$", .typeset (.type .string))]])
      (Context.root (.array [.string "a", .number 1])) = .ok (.failure m) := ⟨_, rfl⟩
  exact ⟨m, failed, failure_atFirstFailingChild.2.2.2.2.2.2.2 _ _ _ _ m failed⟩

end Check

end Conformance
