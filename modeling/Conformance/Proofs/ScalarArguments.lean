import Conformance.Proofs.Relaxation

/-!
# How the scalar validators read their arguments

`string` and the number types read their arguments in a fixed order, and an argument counts only
when it has the right form: an ill-typed argument is passed over as if it were absent.

* `string`: a `oneOf` string, or a non-empty `oneOf` array, lists the accepted strings (the
  array's other items are ignored); else a non-empty `exp` is a pattern, compiled with
  `expFlags`, that must match; else the length in UTF-16 units must be at least the least length
  (`min` when it is a count, else 1 for a required string whose `max` is not zero, else 0) and at
  most `max` (when it is a count not below the least length), and a non-empty `partial` must
  occur in the string.
* the number types: a non-empty `oneOf` array lists the accepted numbers, those of its items that
  are numbers of the type; else a `oneOf` number of the type is the one accepted; else `min` and
  `max` bound the number, each only when it is a number of the type, and `max` only when it is
  not below such a `min`.

Main statements: `Check.validateString_precedence` and `Check.validateType_number_iff`.  Each
validator accepts a value its qualifier does not permit exactly as `StringArgsAdmit` and
`NumberArgsAdmit` say, rule by rule.  Comparisons of binary64 numbers stay as the validators make
them: a length is checked against its least length as not below it.
-/

namespace Conformance

namespace Check

/-! ### Numbers -/

/-- The types the number validator checks. -/
def numberTypes : List TypeName := [.number, .finite, .int, .safeInt, .float]

/-- `oneOf` lists no number of type `t`: it is absent, or neither a non-empty array nor a number
of the type. -/
def ListsNoNumber (t : TypeName) (a : Args) : Prop :=
  ∀ j, Args.data? a "oneOf" = some j →
    (∀ items, j = .array items → items = []) ∧ ∀ c, j.asFloat? = some c → t.holds (.number c) = false

/-- `min` and `max` of type `t` bound `n`: a bound counts only when it is a number of the type,
and `max` only when it is not below such a `min`. -/
def NumberBounded (t : TypeName) (a : Args) (n : Float) : Prop :=
  (∀ lo, Args.number? a "min" = some lo → t.holds (.number lo) = true → lo ≤ n) ∧
    ∀ hi, Args.number? a "max" = some hi → t.holds (.number hi) = true →
      (∀ lo, Args.number? a "min" = some lo → t.holds (.number lo) = true → lo ≤ hi) → n ≤ hi

/-- How the arguments of number type `t` admit the number `n`, by the first rule that applies. -/
inductive NumberArgsAdmit (t : TypeName) (a : Args) (n : Float) : Prop
  /-- A non-empty `oneOf` array admits the numbers of the type among its items. -/
  | listed {items : List Json} {j : Json} {c : Float} : Args.data? a "oneOf" = some (.array items) →
      j ∈ items → j.asFloat? = some c → t.holds (.number c) = true → (c == n) = true →
      NumberArgsAdmit t a n
  /-- A `oneOf` number of the type admits itself. -/
  | single {j : Json} {c : Float} : Args.data? a "oneOf" = some j → j.asFloat? = some c →
      t.holds (.number c) = true → (c == n) = true → NumberArgsAdmit t a n
  /-- Without such a `oneOf`, the bounds of the type admit `n`. -/
  | bounded : ListsNoNumber t a → NumberBounded t a n → NumberArgsAdmit t a n

section Numbers

variable {t : TypeName} {a : Args}

theorem oneOfNumbers?_eq_none_iff : oneOfNumbers? t a = none ↔ ListsNoNumber t a := by
  unfold oneOfNumbers? ListsNoNumber
  cases Args.data? a "oneOf" with
  | none => simp
  | some j =>
      cases j with
      | array items => cases items <;> simp [Json.asFloat?]
      | number x => simp [Json.asFloat?]
      | _ => simp [Json.asFloat?]

theorem numberBounded_iff (x : Float) :
    (((Args.number? a "min").filter fun y => t.holds (.number y)).all (x ≥ ·) &&
      ((((Args.number? a "max").filter fun y => t.holds (.number y)).filter fun m =>
        ((Args.number? a "min").filter fun y => t.holds (.number y)).all (m ≥ ·)).all (x ≤ ·)))
      = true ↔ NumberBounded t a x := by
  unfold NumberBounded
  cases Args.number? a "min" with
  | none =>
      cases Args.number? a "max" with
      | none => simp
      | some hi => cases highIn : t.holds (.number hi) <;> simp [Option.filter, highIn]
  | some lo =>
      cases lowIn : t.holds (.number lo) with
      | false =>
          cases Args.number? a "max" with
          | none => simp [Option.filter, lowIn]
          | some hi => cases highIn : t.holds (.number hi) <;> simp [Option.filter, lowIn, highIn]
      | true =>
          cases Args.number? a "max" with
          | none => simp [Option.filter, lowIn]
          | some hi =>
              cases highIn : t.holds (.number hi) with
              | false => simp [Option.filter, lowIn, highIn]
              | true => by_cases ordered : lo ≤ hi <;> simp [Option.filter, lowIn, highIn, ordered]

theorem oneOfNumbers?_eq_some {cs : List Float} (listing : oneOfNumbers? t a = some cs) :
    (∃ items, Args.data? a "oneOf" = some (.array items) ∧ items ≠ [] ∧
      cs = (items.filterMap Json.asFloat?).filter fun c => t.holds (.number c)) ∨
    ∃ j c, Args.data? a "oneOf" = some j ∧ j.asFloat? = some c ∧ t.holds (.number c) = true ∧
      cs = [c] := by
  unfold oneOfNumbers? at listing
  cases given : Args.data? a "oneOf" with
  | none => simp [given] at listing
  | some j =>
      rw [given] at listing
      cases j with
      | array items =>
          cases items with
          | nil => simp at listing
          | cons first rest =>
              simp at listing
              exact .inl ⟨_, rfl, List.cons_ne_nil _ _, listing.symm⟩
      | number y =>
          simp only [Json.asFloat?, Option.filter_some] at listing
          split at listing
          · rename_i inType
            simp only [Option.map_some, Option.some.injEq] at listing
            exact .inr ⟨_, _, rfl, rfl, inType, listing.symm⟩
          · simp at listing
      | _ => simp [Json.asFloat?] at listing

namespace NumberArgsAdmit

variable {n : Float}

theorem iff_bounded (nothing : ListsNoNumber t a) :
    NumberArgsAdmit t a n ↔ NumberBounded t a n := by
  constructor
  · intro admitted
    cases admitted with
    | listed given member _ _ _ =>
        exact absurd ((nothing _ given).1 _ rfl ▸ member) List.not_mem_nil
    | single given number inType _ =>
        rw [(nothing _ given).2 _ number] at inType
        cases inType
    | bounded _ bounded => exact bounded
  · exact .bounded nothing

theorem iff_listed {items : List Json} (given : Args.data? a "oneOf" = some (.array items))
    (nonempty : items ≠ []) :
    NumberArgsAdmit t a n ↔ ∃ c, (∃ j ∈ items, j.asFloat? = some c) ∧ t.holds (.number c) = true ∧
      (c == n) = true := by
  constructor
  · intro admitted
    cases admitted with
    | listed given' member number inType same =>
        rw [given, Option.some.injEq, Json.array.injEq] at given'
        subst given'
        exact ⟨_, ⟨_, member, number⟩, inType, same⟩
    | single given' number _ _ =>
        rw [given] at given'
        cases given'
        cases number
    | bounded nothing _ => exact absurd ((nothing _ given).1 _ rfl) nonempty
  · rintro ⟨c, ⟨j, member, number⟩, inType, same⟩
    exact .listed given member number inType same

theorem iff_single {j : Json} {c : Float} (given : Args.data? a "oneOf" = some j)
    (number : j.asFloat? = some c) (inType : t.holds (.number c) = true) :
    NumberArgsAdmit t a n ↔ (c == n) = true := by
  constructor
  · intro admitted
    cases admitted with
    | listed given' _ _ _ _ =>
        rw [given, Option.some.injEq] at given'
        subst given'
        cases number
    | single given' number' _ same =>
        rw [given, Option.some.injEq] at given'
        subst given'
        rw [number, Option.some.injEq] at number'
        subst number'
        exact same
    | bounded nothing _ =>
        rw [(nothing _ given).2 _ number] at inType
        cases inType
  · exact .single given number inType

end NumberArgsAdmit

theorem numberMeets_iff (x : Float) : numberMeets t x a = true ↔ NumberArgsAdmit t a x := by
  unfold numberMeets
  cases listing : oneOfNumbers? t a with
  | none =>
      simp only
      rw [numberBounded_iff, NumberArgsAdmit.iff_bounded (oneOfNumbers?_eq_none_iff.mp listing)]
  | some cs =>
      simp only [List.any_eq_true]
      rcases oneOfNumbers?_eq_some listing with ⟨items, given, nonempty, rfl⟩ |
        ⟨j, c, given, number, inType, rfl⟩
      · rw [NumberArgsAdmit.iff_listed given nonempty]
        simp only [List.mem_filter, List.mem_filterMap]
        exact ⟨fun ⟨c, ⟨listed, inType⟩, same⟩ => ⟨c, listed, inType, same⟩,
          fun ⟨c, listed, inType, same⟩ => ⟨c, ⟨listed, inType⟩, same⟩⟩
      · rw [NumberArgsAdmit.iff_single given number inType]
        simp

theorem validateNumber_succeeds_iff {v : Value} {q : Qualifier} {args : Option Args}
    (notPermitted : q.permits v = false) :
    Succeeds (validateNumber t v q args) ↔
      ∃ n, v = .number n ∧ t.holds (.number n) = true ∧ ∀ a, args = some a → NumberArgsAdmit t a n := by
  unfold validateNumber
  simp only [notPermitted, Bool.false_eq_true, if_false]
  cases v with
  | number x =>
      simp only [Value.number.injEq, exists_eq_left']
      split
      · rename_i valid
        simp only [Bool.and_eq_true, Option.all_eq_true] at valid
        refine iff_of_true ⟨_, rfl⟩ ⟨valid.1, fun a given => ?_⟩
        exact (numberMeets_iff x).mp (valid.2 a given)
      · rename_i invalid
        refine iff_of_false not_succeeds_mismatch fun ⟨inType, admitted⟩ => invalid ?_
        simp only [Bool.and_eq_true, Option.all_eq_true]
        exact ⟨inType, fun a given => (numberMeets_iff x).mpr (admitted a given)⟩
  | _ => simp [not_succeeds_mismatch]

end Numbers

/-- Numeric arguments count only inside the type's own range.  For each number type `t`, a value
its qualifier `q` does not permit is accepted exactly when it is a number `n` of the type and,
when arguments are given: `n` is one of the numbers of the type in a non-empty `oneOf` array (an
array with none accepts nothing); else `n` is a `oneOf` number of the type; else `n` is not below
`min` and not above `max`, each counted only when it is a number of the type, and `max` only when
it is not below such a `min`. -/
theorem validateType_number_iff {t : TypeName} (numeric : t ∈ numberTypes) (recur : Recur)
    (v : Value) (q : Qualifier) (args : Option Args) (ctx : Context)
    (notPermitted : q.permits v = false) :
    Succeeds (validateType recur t v q args ctx) ↔
      ∃ n, v = .number n ∧ t.holds (.number n) = true ∧ ∀ a, args = some a → NumberArgsAdmit t a n := by
  have dispatched : validateType recur t v q args ctx = validateNumber t v q args := by
    simp only [numberTypes, List.mem_cons, List.not_mem_nil, or_false] at numeric
    rcases numeric with rfl | rfl | rfl | rfl | rfl <;> rfl
  rw [dispatched]
  exact validateNumber_succeeds_iff notPermitted

/-- `[int, {oneOf: [1.5, 2]}]`: the number types' validator, for `int`, under `required`. -/
theorem validateType_number_iff_intOneOf :
    Succeeds (validateType (Engine.standard fun _ _ => .ok true).checkIn .int (.number 2) .required
        (some [("oneOf", .data (.array [.number (.float 1.5), .number (.int 2)]))])
        (Context.root (.number 2))) ↔
      ∃ n, Value.number 2 = .number n ∧ TypeName.int.holds (.number n) = true ∧
        ∀ a, some [("oneOf", Arg.data (.array [.number (.float 1.5), .number (.int 2)]))] = some a →
          NumberArgsAdmit .int a n :=
  validateType_number_iff (by decide) _ _ _ _ _ rfl

/-! ### Strings -/

/-- `oneOf` lists no strings: it is absent, or neither a string nor a non-empty array. -/
def ListsNoString (a : Args) : Prop :=
  ∀ j, Args.data? a "oneOf" = some j → (∀ c, j ≠ .string c) ∧ ∀ items, j = .array items → items = []

/-- The least length of a string under qualifier `q`: `min` when it is a count; otherwise 1 for a
required string whose `max` is not a finite zero, and 0 when not. -/
def minLength (q : Qualifier) (a : Args) : Float :=
  (Args.count? a "min").getD
    (if q = .required ∧ (Args.number? a "max").any (fun hi => !hi.isNaN && !hi.isInf && hi == 0) = false
      then 1 else 0)

/-- How the arguments of `string` under qualifier `q` admit the string `s`, by the first rule that
applies. -/
inductive StringArgsAdmit (q : Qualifier) (a : Args) (s : String) : Prop
  /-- `oneOf` is the string itself. -/
  | single : Args.data? a "oneOf" = some (.string s) → StringArgsAdmit q a s
  /-- `oneOf` is an array with the string among its items. -/
  | listed {items : List Json} : Args.data? a "oneOf" = some (.array items) → .string s ∈ items →
      StringArgsAdmit q a s
  /-- Without such a `oneOf`, a non-empty `exp`, compiled with `expFlags`, matches the string. -/
  | matched {exp : String} {re : Pattern.Compiled} : ListsNoString a →
      Args.nonEmptyString? a "exp" = some exp →
      compilePattern exp (Args.nonEmptyString? a "expFlags") = .ok re → re.isMatch s = true →
      StringArgsAdmit q a s
  /-- Without a `oneOf` or an `exp`, the length lies within the bounds and a non-empty `partial`
  occurs in the string. -/
  | bounded : ListsNoString a → Args.nonEmptyString? a "exp" = none →
      ¬Float.ofNat (Text.utf16Length s) < minLength q a →
      (∀ hi, Args.count? a "max" = some hi → minLength q a ≤ hi →
        Float.ofNat (Text.utf16Length s) ≤ hi) →
      (∀ p, Args.nonEmptyString? a "partial" = some p → Text.containsText s p = true) →
      StringArgsAdmit q a s

section Strings

variable {a : Args} {s : String}

theorem oneOfStrings?_eq_none_iff : oneOfStrings? a = none ↔ ListsNoString a := by
  unfold oneOfStrings? ListsNoString
  cases Args.data? a "oneOf" with
  | none => simp
  | some j =>
      cases j with
      | array items => cases items <;> simp
      | _ => simp

theorem Json.asString?_eq_some_iff {j : Json} : j.asString? = some s ↔ j = .string s := by
  cases j <;> simp [Json.asString?]

theorem contains_oneOfStrings? {cs : List String} (listing : oneOfStrings? a = some cs) :
    cs.contains s = true ↔ Args.data? a "oneOf" = some (.string s) ∨
      ∃ items, Args.data? a "oneOf" = some (.array items) ∧ .string s ∈ items := by
  unfold oneOfStrings? at listing
  cases given : Args.data? a "oneOf" with
  | none => simp [given] at listing
  | some j =>
      rw [given] at listing
      cases j with
      | string c =>
          simp only [Option.some.injEq] at listing
          subst listing
          simp [eq_comm]
      | array items =>
          cases items with
          | nil => simp at listing
          | cons first rest =>
              simp only [List.isEmpty_cons, Bool.false_eq_true, if_false, Option.some.injEq]
                at listing
              subst listing
              simp [List.mem_filterMap, Json.asString?_eq_some_iff]
      | _ => simp at listing

theorem withinBounds_some_iff {len lo : Float} {max : Option Float} :
    withinBounds len (some lo) max = true ↔ ¬len < lo ∧ ∀ hi, max = some hi → lo ≤ hi → len ≤ hi := by
  unfold withinBounds
  by_cases below : len < lo
  · simp [below]
  · cases max with
    | none => simp [below]
    | some hi => by_cases ordered : lo ≤ hi <;> simp [below, ordered]

theorem count?_max : (((Args.number? a "max").filter fun x => !x.isNaN && !x.isInf).filter
    (· ≥ 0)) = Args.count? a "max" := by
  unfold Args.count?
  simp only [Option.filter_filter, Bool.and_assoc]

namespace StringArgsAdmit

variable {q : Qualifier}

theorem iff_listed (listed : ¬ListsNoString a) :
    StringArgsAdmit q a s ↔ Args.data? a "oneOf" = some (.string s) ∨
      ∃ items, Args.data? a "oneOf" = some (.array items) ∧ .string s ∈ items := by
  constructor
  · intro admitted
    cases admitted with
    | single given => exact .inl given
    | listed given member => exact .inr ⟨_, given, member⟩
    | matched nothing _ _ _ => exact absurd nothing listed
    | bounded nothing _ _ _ _ => exact absurd nothing listed
  · rintro (given | ⟨items, given, member⟩)
    · exact .single given
    · exact .listed given member

theorem of_listsNoString (nothing : ListsNoString a) (admitted : StringArgsAdmit q a s) :
    (∃ exp re, Args.nonEmptyString? a "exp" = some exp ∧
      compilePattern exp (Args.nonEmptyString? a "expFlags") = .ok re ∧ re.isMatch s = true) ∨
    Args.nonEmptyString? a "exp" = none ∧ ¬Float.ofNat (Text.utf16Length s) < minLength q a ∧
      (∀ hi, Args.count? a "max" = some hi → minLength q a ≤ hi →
        Float.ofNat (Text.utf16Length s) ≤ hi) ∧
      ∀ p, Args.nonEmptyString? a "partial" = some p → Text.containsText s p = true := by
  cases admitted with
  | single given => exact absurd rfl ((nothing _ given).1 s)
  | listed given member =>
      rw [(nothing _ given).2 _ rfl] at member
      cases member
  | matched _ given compiled found => exact .inl ⟨_, _, given, compiled, found⟩
  | bounded _ none notBelow notAbove occurs => exact .inr ⟨none, notBelow, notAbove, occurs⟩

theorem iff_matched (nothing : ListsNoString a) {exp : String}
    (pattern : Args.nonEmptyString? a "exp" = some exp) :
    StringArgsAdmit q a s ↔ ∃ re, compilePattern exp (Args.nonEmptyString? a "expFlags") = .ok re ∧
      re.isMatch s = true := by
  constructor
  · intro admitted
    rcases admitted.of_listsNoString nothing with ⟨_, re, given, compiled, found⟩ | ⟨none, -⟩
    · rw [pattern, Option.some.injEq] at given
      subst given
      exact ⟨re, compiled, found⟩
    · rw [pattern] at none
      cases none
  · rintro ⟨re, compiled, found⟩
    exact .matched nothing pattern compiled found

theorem iff_bounded (nothing : ListsNoString a) (pattern : Args.nonEmptyString? a "exp" = none) :
    StringArgsAdmit q a s ↔ (¬Float.ofNat (Text.utf16Length s) < minLength q a ∧
      ∀ hi, Args.count? a "max" = some hi → minLength q a ≤ hi →
        Float.ofNat (Text.utf16Length s) ≤ hi) ∧
      ∀ p, Args.nonEmptyString? a "partial" = some p → Text.containsText s p = true := by
  constructor
  · intro admitted
    rcases admitted.of_listsNoString nothing with ⟨_, _, given, -⟩ | ⟨-, notBelow, notAbove, occurs⟩
    · rw [pattern] at given
      cases given
    · exact ⟨⟨notBelow, notAbove⟩, occurs⟩
  · rintro ⟨⟨notBelow, notAbove⟩, occurs⟩
    exact .bounded nothing pattern notBelow notAbove occurs

end StringArgsAdmit

theorem stringMeets_eq_ok_true_iff {q : Qualifier} :
    stringMeets s q a = .ok true ↔ StringArgsAdmit q a s := by
  unfold stringMeets
  cases listing : oneOfStrings? a with
  | some cs =>
      have listed : ¬ListsNoString a := fun nothing => by
        rw [oneOfStrings?_eq_none_iff.mpr nothing] at listing
        cases listing
      simp only [Except.ok.injEq]
      rw [contains_oneOfStrings? listing, StringArgsAdmit.iff_listed listed]
  | none =>
      have nothing := oneOfStrings?_eq_none_iff.mp listing
      simp only
      cases pattern : Args.nonEmptyString? a "exp" with
      | some exp =>
          rw [StringArgsAdmit.iff_matched nothing pattern]
          cases compiled : compilePattern exp (Args.nonEmptyString? a "expFlags") <;>
            simp [compiled, Except.map]
      | none =>
          have least : (Args.count? a "min").getD
              (if (q == .required && !(((Args.number? a "max").filter fun x =>
                !x.isNaN && !x.isInf).any (· == 0))) = true then 1 else 0) = minLength q a := by
            simp [minLength, Option.any_filter]
          simp only [least, count?_max]
          rw [StringArgsAdmit.iff_bounded nothing pattern, ← withinBounds_some_iff]
          cases withinBounds (Float.ofNat (Text.utf16Length s)) (some (minLength q a))
            (Args.count? a "max") <;> simp [Option.all_eq_true]

theorem validateString_some_succeeds_iff {q : Qualifier} (notPermitted : q.permits (.string s) = false)
    (a : Args) : Succeeds (validateString (.string s) q (some a)) ↔ StringArgsAdmit q a s := by
  unfold validateString
  simp only [notPermitted, Bool.false_eq_true, if_false]
  rw [← stringMeets_eq_ok_true_iff]
  cases stringMeets s q a with
  | error e => simp
  | ok valid =>
      cases valid with
      | false => simpa using not_succeeds_mismatch
      | true => simp [Succeeds]

theorem validateString_none_succeeds_iff {q : Qualifier}
    (notPermitted : q.permits (.string s) = false) :
    Succeeds (validateString (.string s) q none) ↔ q ≠ .required ∨ s ≠ "" := by
  unfold validateString
  simp only [notPermitted, Bool.false_eq_true, if_false]
  by_cases required : q = .required
  · subst required
    cases empty : s.isEmpty
    · simp [Succeeds, String.isEmpty_eq_false_iff.mp empty]
    · simp [not_succeeds_mismatch, String.isEmpty_iff.mp empty]
  · have optional : (q != .required) = true := by simpa using required
    simp [optional, Succeeds, required]

end Strings

theorem compilePattern_flags (p fl : String) :
    ((∃ c ∈ fl.toList, c ∉ ['i', 'm', 's', 'y', 'u', 'g']) →
      compilePattern p (some fl) = .error (.invalidPatternFlags fl)) ∧
    ((∀ c ∈ fl.toList, c ∈ ['i', 'm', 's', 'y', 'u', 'g']) →
      compilePattern p (some fl) =
        (Pattern.compile
          { caseless := fl.toList.contains 'i', multiLine := fl.toList.contains 'm',
            dotAll := fl.toList.contains 's' }
          (if fl.toList.contains 'y' then "\\A(?:" ++ p ++ ")" else p)).mapError
            fun _ => .invalidPattern p) := by
  constructor
  · rintro ⟨c, member, other⟩
    have invalid : patternFlagsValid fl = false := by
      simp only [patternFlagsValid, List.all_eq_false]
      exact ⟨c, member, by simpa [and_assoc] using other⟩
    simp [compilePattern, invalid]
  · intro known
    have valid : patternFlagsValid fl = true := by
      simp only [patternFlagsValid, List.all_eq_true]
      intro c member
      simpa [or_assoc] using known c member
    simp only [compilePattern, Option.getD_some, valid, Bool.not_true, Bool.false_eq_true, if_false]
    cases Pattern.compile _ _ <;> rfl

/-- `string` arguments apply in a fixed precedence.  For a string `s` that its qualifier `q` does
not permit: with arguments, `s` is accepted exactly as `StringArgsAdmit` says, the first rule that
applies deciding.  A `oneOf` string or non-empty array lists the accepted strings; else a
non-empty `exp` must match, compiled with `expFlags`, whose `i`, `m` and `s` set the matching
mode, `y` anchors at the start, `u` and `g` change nothing, and any other flag is refused; else
the UTF-16 length is not below `minLength` nor above a `max` that is a count not below it, and a
non-empty `partial` occurs in `s`.  Without arguments, `s` is accepted unless it is empty and
required. -/
theorem validateString_precedence (s : String) (q : Qualifier)
    (notPermitted : q.permits (.string s) = false) :
    (∀ a, Succeeds (validateString (.string s) q (some a)) ↔ StringArgsAdmit q a s) ∧
    (∀ p fl, ((∃ c ∈ fl.toList, c ∉ ['i', 'm', 's', 'y', 'u', 'g']) →
        compilePattern p (some fl) = .error (.invalidPatternFlags fl)) ∧
      ((∀ c ∈ fl.toList, c ∈ ['i', 'm', 's', 'y', 'u', 'g']) →
        compilePattern p (some fl) =
          (Pattern.compile
            { caseless := fl.toList.contains 'i', multiLine := fl.toList.contains 'm',
              dotAll := fl.toList.contains 's' }
            (if fl.toList.contains 'y' then "\\A(?:" ++ p ++ ")" else p)).mapError
              fun _ => .invalidPattern p)) ∧
    (Succeeds (validateString (.string s) q none) ↔ q ≠ .required ∨ s ≠ "") :=
  ⟨validateString_some_succeeds_iff notPermitted, compilePattern_flags,
    validateString_none_succeeds_iff notPermitted⟩

/-- `"b"` is one of the strings `[a, 1, b]` lists for `oneOf`: the number among them is passed
over. -/
theorem validateString_precedence_listedAmongOthers :
    StringArgsAdmit .required
      [("oneOf", .data (.array [.string "a", .number (.int 1), .string "b"]))] "b" :=
  ((validateString_precedence "b" .required rfl).1 _).mp ⟨_, rfl⟩

end Check

end Conformance
