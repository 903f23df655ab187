import Conformance.Proofs.DeepHashMap
import Conformance.Proofs.TypeForms

/-!
# Maps and their entries

A `map` typeset checks a map value entry by entry, in insertion order: the key first against
`$keys`, then, when it is a string and the key pattern applies, against `keyExp` compiled with
`keyFlags`, and only then the value against `$values`.  The key pattern applies when `$keys` is
absent or, written in full, is exactly a qualified `string`.  Before any entry, the map must have
as many entries as `length` asks for when it is a count.

Main statement: `Engine.checkIn_map`.  For a map value its qualifier does not permit, a check
against `[q, map, args]` that answers, raising no error, is valid exactly when the length fits
and every entry is accepted (`Check.MapEntryAccepted`).  A failure is the map's own when the
length does not fit; otherwise it stands at the first entry refused (`Check.MapEntryRefused`),
every entry before it being accepted: under `key=` and the key with the key's own failure, under
`key=` with the map's own mismatch when the key pattern refuses the key, or under `valueKey=`
with the value's failure.
-/

namespace Conformance

namespace Check

/-- The typeset of a map under qualifier `q` with arguments `args`. -/
def mapTypeset (q : Qualifier) (args : Args) : Typeset :=
  .list [.qualifier q, .form (.type .map), .args args]

/-- The key pattern applies to a map's keys: `$keys` is absent, or written in full it is exactly a
qualified `string`. -/
def KeyPatternApplies (args : Args) : Prop :=
  ∀ ks, typesetArg args "$keys" = some ks →
    ∃ q', ks.fullyQualify none = .ok (.list [.qualifier q', .form (.type .string)])

/-- A key the key pattern takes: when the pattern applies and the key is a string, a non-empty
`keyExp` compiles with `keyFlags` and matches it. -/
def KeyMatches (args : Args) (k : Value) : Prop :=
  KeyPatternApplies args → ∀ s exp, k = .string s → Args.nonEmptyString? args "keyExp" = some exp →
    ∃ re, compilePattern exp (Args.nonEmptyString? args "keyFlags") = .ok re ∧ re.isMatch s = true

section Entries

variable (e : Engine) (q : Qualifier) (args : Args) (v : Value) (ctx : Context)

/-- An entry of map `v` that the check accepts: its key passes `$keys` and the key pattern, and its
value passes `$values`, each checked in the context of the map. -/
structure MapEntryAccepted (entry : Value × Value) : Prop where
  key : ∀ ks, typesetArg args "$keys" = some ks → Succeeds (e.checkIn entry.1 ks (ctx.derive v none))
  matched : KeyMatches args entry.1
  value : ∀ vs, typesetArg args "$values" = some vs →
    Succeeds (e.checkIn entry.2 vs (ctx.derive v (some (.key entry.1))))

/-- How the check refuses an entry of map `v`, with the failure reported at the map and its typeset
`[q, map, args]`: the key is checked against `$keys`, then against the key pattern, and only then
the value against `$values`. -/
inductive MapEntryRefused : Value × Value → Mismatch → Prop
  /-- The key fails `$keys`: its failure, under `key=` and the key. -/
  | key {k x : Value} {ks : Typeset} {child : Mismatch} : typesetArg args "$keys" = some ks →
      e.checkIn k ks (ctx.derive v none) = .ok (.failure child) →
      MapEntryRefused (k, x)
        ⟨v, mapTypeset q args, keySegment "key" k :: child.path, child.mismatch, child.cause⟩
  /-- The key pattern does not match a string key: the map's own mismatch, under `key=` and the
  key. -/
  | pattern {k x : Value} {s exp : String} {re : Pattern.Compiled} :
      (∀ ks, typesetArg args "$keys" = some ks → Succeeds (e.checkIn k ks (ctx.derive v none))) →
      KeyPatternApplies args → k = .string s → Args.nonEmptyString? args "keyExp" = some exp →
      compilePattern exp (Args.nonEmptyString? args "keyFlags") = .ok re → re.isMatch s = false →
      MapEntryRefused (k, x) ⟨v, mapTypeset q args, [keySegment "key" k], mapTypeset q args, none⟩
  /-- The value fails `$values`: its failure, under `valueKey=` and the key. -/
  | value {k x : Value} {vs : Typeset} {child : Mismatch} :
      (∀ ks, typesetArg args "$keys" = some ks → Succeeds (e.checkIn k ks (ctx.derive v none))) →
      KeyMatches args k → typesetArg args "$values" = some vs →
      e.checkIn x vs (ctx.derive v (some (.key k))) = .ok (.failure child) →
      MapEntryRefused (k, x)
        ⟨v, mapTypeset q args, keySegment "valueKey" k :: child.path, child.mismatch, child.cause⟩

end Entries

/-! ### The key pattern -/

section KeyPattern

variable {args : Args}

theorem isStringTypeset_iff {ks : Typeset} :
    isStringTypeset ks = true ↔
      ∃ q', ks.fullyQualify none = .ok (.list [.qualifier q', .form (.type .string)]) := by
  unfold isStringTypeset
  constructor
  · intro isString
    split at isString
    · rename_i lead written
      cases checked : Typeset.validate {} ks with
      | error reason =>
          simp [Typeset.fullyQualify, Typeset.verify, checked, Except.mapError] at written
      | ok u =>
          rw [Typeset.fullyQualify_eq_ok checked, Except.ok.injEq] at written
          have normal := Typeset.inLanguage_fullyQualified (Typeset.inLanguage_of_validate checked) none
          rw [written] at normal
          cases normal with
          | list plain _ => cases plain
          | qualified q' _ => exact ⟨q', by rw [Typeset.fullyQualify_eq_ok checked, written]⟩
    · cases isString
  · rintro ⟨q', written⟩
    simp [written]

theorem keyPatternApplies_iff :
    KeyPatternApplies args ↔ (typesetArg args "$keys").all isStringTypeset = true := by
  unfold KeyPatternApplies
  cases typesetArg args "$keys" with
  | none => simp
  | some ks => simp [isStringTypeset_iff]

theorem mapKeyPattern_eq_ok {keyExp : Option Pattern.Compiled}
    (compiled : (if (typesetArg args "$keys").all isStringTypeset then keyPattern args
      else .ok none) = .ok keyExp) :
    (keyExp = none ∧ (KeyPatternApplies args → Args.nonEmptyString? args "keyExp" = none)) ∨
      ∃ exp re, keyExp = some re ∧ KeyPatternApplies args ∧
        Args.nonEmptyString? args "keyExp" = some exp ∧
        compilePattern exp (Args.nonEmptyString? args "keyFlags") = .ok re := by
  by_cases applies : KeyPatternApplies args
  · rw [if_pos (keyPatternApplies_iff.mp applies)] at compiled
    unfold keyPattern at compiled
    cases given : Args.nonEmptyString? args "keyExp" with
    | none =>
        rw [given, Except.ok.injEq] at compiled
        exact .inl ⟨compiled.symm, fun _ => rfl⟩
    | some exp =>
        rw [given] at compiled
        cases compiling : compilePattern exp (Args.nonEmptyString? args "keyFlags") with
        | error err => simp [compiling, Except.map] at compiled
        | ok re =>
            simp only [compiling, Except.map, Except.ok.injEq] at compiled
            exact .inr ⟨exp, re, compiled.symm, applies, rfl, compiling⟩
  · rw [if_neg (fun holds => applies (keyPatternApplies_iff.mpr holds)), Except.ok.injEq]
      at compiled
    exact .inl ⟨compiled.symm, fun holds => absurd holds applies⟩

theorem refusesKey_eq_true_iff {keyExp : Option Pattern.Compiled}
    (compiled : (if (typesetArg args "$keys").all isStringTypeset then keyPattern args
      else .ok none) = .ok keyExp) (k : Value) :
    refusesKey keyExp k = true ↔
      ∃ s exp re, KeyPatternApplies args ∧ k = .string s ∧
        Args.nonEmptyString? args "keyExp" = some exp ∧
        compilePattern exp (Args.nonEmptyString? args "keyFlags") = .ok re ∧ re.isMatch s = false := by
  rcases mapKeyPattern_eq_ok compiled with ⟨rfl, absent⟩ | ⟨exp, re, rfl, applies, given, compiling⟩
  · -- no pattern refuses nothing
    cases k <;> simp only [refusesKey, Option.any_none, Bool.false_eq_true, false_iff] <;>
      rintro ⟨s, exp, re, applies, -, given, -⟩ <;> simp [absent applies] at given
  · cases k with
    | string s =>
        simp only [refusesKey, Option.any_some, Bool.not_eq_eq_eq_not, Bool.not_true,
          Value.string.injEq, exists_and_left, exists_eq_left']
        constructor
        · intro unmatched
          exact ⟨applies, exp, given, re, compiling, unmatched⟩
        · rintro ⟨-, exp', given', re', compiling', unmatched⟩
          rw [given, Option.some.injEq] at given'
          subst given'
          rw [compiling, Except.ok.injEq] at compiling'
          subst compiling'
          exact unmatched
    | _ => simp [refusesKey]

theorem refusesKey_eq_false_iff {keyExp : Option Pattern.Compiled}
    (compiled : (if (typesetArg args "$keys").all isStringTypeset then keyPattern args
      else .ok none) = .ok keyExp) (k : Value) :
    refusesKey keyExp k = false ↔ KeyMatches args k := by
  rw [← Bool.not_eq_true, refusesKey_eq_true_iff compiled]
  unfold KeyMatches
  constructor
  · intro taken applies s exp named given
    obtain ⟨re, compiling⟩ : ∃ re, compilePattern exp (Args.nonEmptyString? args "keyFlags") = .ok re := by
      rcases mapKeyPattern_eq_ok compiled with ⟨-, absent⟩ | ⟨exp', re, -, -, given', compiling⟩
      · rw [absent applies] at given
        cases given
      · rw [given, Option.some.injEq] at given'
        exact ⟨re, given' ▸ compiling⟩
    refine ⟨re, compiling, ?_⟩
    cases matching : re.isMatch s with
    | true => rfl
    | false => exact absurd ⟨s, exp, re, applies, named, given, compiling, matching⟩ taken
  · rintro accepts ⟨s, exp, re, applies, named, given, compiling, unmatched⟩
    obtain ⟨re', compiling', matched⟩ := accepts applies s exp named given
    rw [compiling, Except.ok.injEq] at compiling'
    subst compiling'
    rw [matched] at unmatched
    cases unmatched

end KeyPattern

/-! ### The walk over the entries -/

section Walk

variable {recur : Recur} {v : Value} {q : Qualifier} {args : Args} {keysTs valuesTs : Option Typeset}
  {keyExp : Option Pattern.Compiled} {ctx : Context}

theorem checkEntries_succeeds_iff :
    ∀ {entries acc : List (Value × Value)},
      Succeeds (checkEntries recur v q args keysTs keyExp valuesTs ctx acc entries) ↔
        ∀ entry ∈ entries, EntryPasses recur v keysTs keyExp valuesTs ctx entry
  | [], acc => by simp [checkEntries, Succeeds]
  | (key, x) :: rest, acc => by
      rw [List.forall_mem_cons]
      constructor
      · intro accepted
        simp only [checkEntries] at accepted
        split at accepted
        · exact absurd accepted not_succeeds_error
        · exact absurd accepted not_succeeds_childFailure
        · rename_i keyMvv keyChecked
          split at accepted
          · exact absurd accepted not_succeeds_map_failure
          · rename_i taken
            split at accepted
            · exact absurd accepted not_succeeds_error
            · exact absurd accepted not_succeeds_childFailure
            · rename_i valueMvv valueChecked
              exact ⟨⟨checkOptional_ok keyChecked, by simpa using taken,
                checkOptional_ok valueChecked⟩, checkEntries_succeeds_iff.mp accepted⟩
      · rintro ⟨first, passed⟩
        obtain ⟨keyMvv, keyChecked⟩ := checkOptional_passes first.keyPasses
        obtain ⟨valueMvv, valueChecked⟩ := checkOptional_passes first.valuePasses
        simp only [checkEntries, keyChecked, first.accepted, Bool.false_eq_true, if_false,
          valueChecked]
        exact checkEntries_succeeds_iff.mpr passed

end Walk

/-! ### The map validator -/

section Validator

variable {recur : Recur} {q : Qualifier} {args : Args} {entries : List (Value × Value)}
  {ctx : Context}

theorem validateMap_unsized (notPermitted : q.permits (.map entries) = false)
    (unsized : hasLength args entries.length = false) :
    validateMap recur (.map entries) q (some args) ctx = mismatch (.map entries) .map q (some args) := by
  simp [validateMap, notPermitted, unsized]

theorem validateMap_sized (notPermitted : q.permits (.map entries) = false)
    (sized : hasLength args entries.length = true) {keyExp : Option Pattern.Compiled}
    (compiled : (if (typesetArg args "$keys").all isStringTypeset then keyPattern args
      else .ok none) = .ok keyExp) :
    validateMap recur (.map entries) q (some args) ctx =
      if (typesetArg args "$keys").isNone && (typesetArg args "$values").isNone && keyExp.isNone
      then .ok (.success (.map []))
      else checkEntries recur (.map entries) q args (typesetArg args "$keys") keyExp
        (typesetArg args "$values") ctx [] entries := by
  simp only [validateMap, notPermitted, sized, compiled, Bool.false_eq_true, if_false,
    Bool.not_true]

theorem entryPasses_of_none {v : Value} {entry : Value × Value}
    (unchecked : (typesetArg args "$keys").isNone && (typesetArg args "$values").isNone &&
      Option.isNone (none : Option Pattern.Compiled) = true) :
    EntryPasses recur v (typesetArg args "$keys") none (typesetArg args "$values") ctx entry := by
  simp only [Bool.and_eq_true, Option.isNone_iff_eq_none] at unchecked
  obtain ⟨⟨noKeys, noValues⟩, -⟩ := unchecked
  refine ⟨?_, by cases entry.1 <;> rfl, ?_⟩
  · intro ks given
    rw [noKeys] at given
    cases given
  · intro vs given
    rw [noValues] at given
    cases given

theorem validateMap_sized_succeeds_iff (notPermitted : q.permits (.map entries) = false)
    (sized : hasLength args entries.length = true) {keyExp : Option Pattern.Compiled}
    (compiled : (if (typesetArg args "$keys").all isStringTypeset then keyPattern args
      else .ok none) = .ok keyExp) :
    Succeeds (validateMap recur (.map entries) q (some args) ctx) ↔
      ∀ entry ∈ entries, EntryPasses recur (.map entries) (typesetArg args "$keys") keyExp
        (typesetArg args "$values") ctx entry := by
  rw [validateMap_sized notPermitted sized compiled]
  split
  · rename_i unchecked
    have noPattern : keyExp = none := by
      simp only [Bool.and_eq_true, Option.isNone_iff_eq_none] at unchecked
      exact unchecked.2
    subst noPattern
    exact iff_of_true ⟨_, rfl⟩ fun _ _ => entryPasses_of_none unchecked
  · exact checkEntries_succeeds_iff

theorem keyPattern_compiled (notPermitted : q.permits (.map entries) = false)
    (sized : hasLength args entries.length = true) {verdict : Verdict}
    (answered : validateMap recur (.map entries) q (some args) ctx = .ok verdict) :
    ∃ keyExp, (if (typesetArg args "$keys").all isStringTypeset then keyPattern args
      else .ok none) = .ok keyExp := by
  cases compiling : (if (typesetArg args "$keys").all isStringTypeset then keyPattern args
      else .ok none) with
  | ok keyExp => exact ⟨keyExp, rfl⟩
  | error err => simp [validateMap, notPermitted, sized, compiling] at answered

end Validator

theorem mismatchAt_rewrap_qualified {x : Value} {t : TypeName} {q : Qualifier} {args : Args}
    {path : List String} {m : Mismatch} (reported : mismatchAt x t q (some args) path = .ok m) :
    m.rewrap x (.list [.qualifier q, .form (.type t), .args args]) [] =
      ⟨x, .list [.qualifier q, .form (.type t), .args args], path,
        .list [.qualifier q, .form (.type t), .args args], none⟩ := by
  obtain ⟨ts, fq, written, full, rfl⟩ := mismatchAt_eq_ok.mp reported
  rw [typesetOf_fullyQualified_eq (takes_of_typesetOf_eq_ok written), Except.ok.injEq] at full
  subst full
  rfl

theorem validateMap_unsized_failure {recur : Recur} {q : Qualifier} {args : Args}
    {entries : List (Value × Value)} {ctx : Context} {m : Mismatch}
    (notPermitted : q.permits (.map entries) = false)
    (unsized : hasLength args entries.length = false)
    (walked : validateMap recur (.map entries) q (some args) ctx = .ok (.failure m)) :
    m.rewrap (.map entries) (mapTypeset q args) [] =
      ⟨.map entries, mapTypeset q args, [], mapTypeset q args, none⟩ := by
  rw [validateMap_unsized notPermitted unsized] at walked
  cases reported : mismatchAt (.map entries) .map q (some args) [] with
  | error err => simp [mismatch, reported, Except.map] at walked
  | ok m' =>
      simp only [mismatch, reported, Except.map, Except.ok.injEq, Verdict.failure.injEq] at walked
      subst walked
      exact mismatchAt_rewrap_qualified reported

theorem validateType_answers_of_runValidator {e : Engine} {recur : Recur} {v : Value}
    {ts : Typeset} {t : TypeName} {q : Qualifier} {args : Option Args} {ctx : Context}
    {verdict : Verdict} (checked : runValidator e recur v ts t q args ctx = .ok verdict) :
    ∃ answer, validateType recur t v q args ctx = .ok answer := by
  unfold runValidator at checked
  split at checked
  · cases checked
  · split at checked
    · rename_i m walked
      exact ⟨_, walked⟩
    · exact ⟨verdict, checked⟩

/-! ### From the walk to the entries -/

section Entries

variable {e : Engine} {q : Qualifier} {args : Args} {v : Value} {ctx : Context}
  {keyExp : Option Pattern.Compiled}

theorem entryPasses_iff
    (compiled : (if (typesetArg args "$keys").all isStringTypeset then keyPattern args
      else .ok none) = .ok keyExp) {entry : Value × Value} :
    EntryPasses e.checkIn v (typesetArg args "$keys") keyExp (typesetArg args "$values") ctx entry ↔
      MapEntryAccepted e args v ctx entry :=
  ⟨fun passes => ⟨passes.keyPasses, (refusesKey_eq_false_iff compiled _).mp passes.accepted,
      passes.valuePasses⟩,
    fun accepted => ⟨accepted.key, (refusesKey_eq_false_iff compiled _).mpr accepted.matched,
      accepted.value⟩⟩

theorem mapEntryRefused_of_entryStops
    (compiled : (if (typesetArg args "$keys").all isStringTypeset then keyPattern args
      else .ok none) = .ok keyExp) {entry : Value × Value} {m : Mismatch}
    (stops : EntryStops e.checkIn v q args (typesetArg args "$keys") keyExp
      (typesetArg args "$values") ctx entry m) :
    MapEntryRefused e q args v ctx entry (m.rewrap v (mapTypeset q args) []) := by
  cases stops with
  | keyFails given fails _ reported =>
      subst reported
      exact .key given fails
  | refused keyPasses refused reported =>
      obtain ⟨s, exp, re, applies, named, given, compiling, unmatched⟩ :=
        (refusesKey_eq_true_iff compiled _).mp refused
      rw [mapTypeset, mismatchAt_rewrap_qualified reported]
      exact .pattern keyPasses applies named given compiling unmatched
  | valueFails keyPasses taken given fails _ reported =>
      subst reported
      exact .value keyPasses ((refusesKey_eq_false_iff compiled _).mp taken) given fails

theorem validateMap_sized_failure {entries : List (Value × Value)}
    (notPermitted : q.permits (.map entries) = false)
    (sized : hasLength args entries.length = true)
    (compiled : (if (typesetArg args "$keys").all isStringTypeset then keyPattern args
      else .ok none) = .ok keyExp) {m : Mismatch}
    (walked : validateMap e.checkIn (.map entries) q (some args) ctx = .ok (.failure m)) :
    ∃ before entry after, entries = before ++ entry :: after ∧
      (∀ entry' ∈ before, MapEntryAccepted e args (.map entries) ctx entry') ∧
      MapEntryRefused e q args (.map entries) ctx entry
        (m.rewrap (.map entries) (mapTypeset q args) []) := by
  rw [validateMap_sized notPermitted sized compiled] at walked
  split at walked
  · cases walked
  · obtain ⟨before, entry, after, split, passed, stops⟩ := checkEntries_failure walked
    exact ⟨before, entry, after, split,
      fun entry' member => (entryPasses_iff compiled).mp (passed entry' member),
      mapEntryRefused_of_entryStops compiled stops⟩

end Entries

end Check

namespace Engine

variable (e : Engine) {v : Value} {ctx : Context}

theorem validate_of_checkIn_eq_ok {ts : Typeset} {verdict : Verdict}
    (checked : e.checkIn v ts ctx = .ok verdict) : ctx.validate = .ok () := by
  rw [checkIn_unfold] at checked
  cases valid : ctx.validate with
  | error err =>
      simp only [Check.checkStep, valid] at checked
      cases checked
  | ok u => rfl

theorem checkIn_qualifiedTypeArgs (valid : ctx.validate = .ok ()) {q : Qualifier} {t : TypeName}
    (takes : t.hasArgs = true) (args : Args) :
    e.checkIn v (.list [.qualifier q, .form (.type t), .args args]) ctx =
      Check.runValidator e e.checkIn v (.list [.qualifier q, .form (.type t), .args args]) t q
        (some args) ctx := by
  have typed : e.checkIn v (.list (.qualifier q :: Rule.typedUnit t (some args))) ctx =
      Check.runValidator e (e.nested v) v (.list (.qualifier q :: Rule.typedUnit t (some args))) t q
        (some args) ctx :=
    e.checkIn_typedUnit (v := v) (q := q) (t := t) valid fun a (_ : some args = some a) => takes
  rw [show Typeset.list [.qualifier q, .form (.type t), .args args] =
    .list (.qualifier q :: Rule.typedUnit t (some args)) from rfl, typed]
  exact (Check.runValidator_follows (.refl e v ctx)
    (Check.recurFollows_of_agreeBelow (e.nested_agreeBelow v) ctx)).eq fun _ stop => stop

/-- Map entry semantics.  Take a map that its qualifier `q` does not permit, and a check against
`[q, map, args]` that answers with a verdict (so no pattern fails to compile).  The verdict is
valid exactly when the map has the entries `length` asks for and every entry, in insertion order,
is accepted: its key passes `$keys`, a string key matches `keyExp` with `keyFlags` when the key
pattern applies (no `$keys`, or one that is exactly a string type), and its value passes
`$values`.  A failure is the map's own when the length does not fit; otherwise it stands at the
first entry refused, all before it accepted, and the key is examined before the value: under
`key=` and the key with the key's failure, under `key=` with the map's own mismatch when the key
pattern refuses the key, or under `valueKey=` and the key with the value's failure. -/
theorem checkIn_map (hasMap : e.has .map = true) (q : Qualifier) (args : Args)
    (entries : List (Value × Value)) (ctx : Context) (verdict : Verdict)
    (notPermitted : q.permits (.map entries) = false)
    (checked : e.checkIn (.map entries) (Check.mapTypeset q args) ctx = .ok verdict) :
    (verdict.isValid = true ↔ Check.hasLength args entries.length = true ∧
      ∀ entry ∈ entries, Check.MapEntryAccepted e args (.map entries) ctx entry) ∧
    ∀ m, verdict = .failure m →
      (Check.hasLength args entries.length = false ∧
        m = ⟨.map entries, Check.mapTypeset q args, [], Check.mapTypeset q args, none⟩) ∨
      ∃ before entry after, entries = before ++ entry :: after ∧
        Check.hasLength args entries.length = true ∧
        (∀ entry' ∈ before, Check.MapEntryAccepted e args (.map entries) ctx entry') ∧
        Check.MapEntryRefused e q args (.map entries) ctx entry m := by
  have valid := e.validate_of_checkIn_eq_ok checked
  have ran : e.checkIn (.map entries) (Check.mapTypeset q args) ctx =
      Check.runValidator e e.checkIn (.map entries) (Check.mapTypeset q args) .map q (some args) ctx :=
    e.checkIn_qualifiedTypeArgs valid (v := .map entries) (q := q) (t := .map) rfl args
  rw [ran] at checked
  have valid_iff : verdict.isValid = true ↔
      Check.Succeeds (Check.validateMap e.checkIn (.map entries) q (some args) ctx) := by
    have validator : Check.Succeeds (Check.runValidator e e.checkIn (.map entries)
          (Check.mapTypeset q args) .map q (some args) ctx) ↔
        e.has .map = true ∧
          Check.Succeeds (Check.validateMap e.checkIn (.map entries) q (some args) ctx) :=
      Check.succeeds_runValidator
    rw [checked, and_iff_right hasMap] at validator
    rw [← validator]
    cases verdict <;> simp [Verdict.isValid, Check.Succeeds]
  cases sized : Check.hasLength args entries.length with
  | false =>
      refine ⟨by simp [valid_iff, Check.validateMap_unsized notPermitted sized,
        Check.not_succeeds_mismatch], fun m failed => .inl ⟨rfl, ?_⟩⟩
      subst failed
      obtain ⟨-, m₀, walked, rfl⟩ := Check.runValidator_failure.mp checked
      exact Check.validateMap_unsized_failure notPermitted sized walked
  | true =>
      obtain ⟨answer, answered⟩ := Check.validateType_answers_of_runValidator checked
      obtain ⟨keyExp, compiled⟩ := Check.keyPattern_compiled notPermitted sized answered
      constructor
      · rw [valid_iff, Check.validateMap_sized_succeeds_iff notPermitted sized compiled]
        simp only [Check.entryPasses_iff compiled, true_and]
      · intro m failed
        subst failed
        obtain ⟨-, m₀, walked, rfl⟩ := Check.runValidator_failure.mp checked
        obtain ⟨before, entry, after, split, passed, refused⟩ :=
          Check.validateMap_sized_failure notPermitted sized compiled walked
        exact .inr ⟨before, entry, after, split, rfl, passed, refused⟩

/-- The map `{"a" ↦ 1}` against `[!, map, {$values: string}]` is refused at its one entry. -/
theorem checkIn_map_numberAgainstStrings :
    ∃ m, (standard fun _ _ => .ok true).checkIn (.map [(.string "a", .number 1)])
        (Check.mapTypeset .required [("$values", .typeset (.type .string))])
        (Context.root (.map [(.string "a", .number 1)])) = .ok (.failure m) ∧
      Check.MapEntryRefused (standard fun _ _ => .ok true) .required
        [("$values", .typeset (.type .string))] (.map [(.string "a", .number 1)])
        (Context.root (.map [(.string "a", .number 1)])) (.string "a", .number 1) m := by
  obtain ⟨m, checked⟩ : ∃ m, (standard fun _ _ => .ok true).checkIn (.map [(.string "a", .number 1)])
      (Check.mapTypeset .required [("$values", .typeset (.type .string))])
      (Context.root (.map [(.string "a", .number 1)])) = .ok (.failure m) := ⟨_, rfl⟩
  refine ⟨m, checked, ?_⟩
  rcases (checkIn_map _ rfl _ _ _ _ _ rfl checked).2 m rfl with ⟨unsized, -⟩ |
    ⟨before, entry, after, split, -, -, refused⟩
  · cases unsized
  · -- the one entry is the first refused
    cases before with
    | nil =>
        cases split
        exact refused
    | cons first rest => simp at split

end Engine

end Conformance
