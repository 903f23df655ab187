import Conformance.Proofs.Alternatives

/-!
# The language of the typeset grammar

`Typeset.validate` reads a list in one pass, left to right, keeping which type an
arguments object may still attach to, how many types it has seen and where a custom
validator stood.  Here the same grammar is written as a language, nonterminal by
nonterminal:

    typeset ::= type | validator | shape | list
    list    ::= qualifier? body
    body    ::= lead unit* validator? | validator
    lead    ::= unit | shape
    unit    ::= type | type args | list

where `args` follows only a type that takes arguments.  The options add side conditions:
a fully-qualified check admits only lists that start with a qualifier and use neither
shapes, nor nested lists, nor a validator without a type before it; a deep check also asks
that the typesets a shape, a nested list and the typeset arguments of a type hold be in the
language (the `$` of an object type a shape, the `$`, `$keys` and `$values` a collection
reads typesets, not data).

Main statement: `validate_eq_ok_iff`, the grammar check accepts exactly the language.  It
rests on one lemma per kind of element for the walk over a list (`validateRules_type`,
`validateRules_args_eq_ok`, ...), on which the two directions are built by recursion: over
the typeset for soundness, over the derivation for completeness.
-/

namespace Conformance

namespace Typeset

mutual

/-- The typesets of the grammar's language under options `o`. -/
inductive InLanguage (o : GrammarOptions) : Typeset → Prop
  | type (t : TypeName) : o.fullyQualified = false → InLanguage o (.type t)
  | validator (name : String) : o.fullyQualified = false → InLanguage o (.validator name)
  | shape {props : List (String × Option Typeset)} : o.fullyQualified = false →
      (o.deep = true → ShapeInLanguage o props) → InLanguage o (.shape props)
  | list {body : List Rule} : o.fullyQualified = false → BodyInLanguage o body →
      InLanguage o (.list body)
  | qualified (q : Qualifier) {body : List Rule} : BodyInLanguage o body →
      InLanguage o (.list (.qualifier q :: body))

/-- A shape whose typed properties are in the language. -/
inductive ShapeInLanguage (o : GrammarOptions) : List (String × Option Typeset) → Prop
  | nil : ShapeInLanguage o []
  | untyped (key : String) {rest : List (String × Option Typeset)} :
      ShapeInLanguage o rest → ShapeInLanguage o ((key, none) :: rest)
  | typed (key : String) {ts : Typeset} {rest : List (String × Option Typeset)} :
      InLanguage o ts → ShapeInLanguage o rest → ShapeInLanguage o ((key, some ts) :: rest)

/-- The elements of a list after its qualifier: a lead alternative, more alternatives and at
most one custom validator, or a custom validator alone. -/
inductive BodyInLanguage (o : GrammarOptions) : List Rule → Prop
  | lone (name : String) : o.fullyQualified = false →
      BodyInLanguage o [.form (.validator name)]
  | lead {lead rest : List Rule} : LeadInLanguage o lead → TailInLanguage o rest →
      BodyInLanguage o (lead ++ rest)

/-- The first alternative of a list, the one place where a shape may stand. -/
inductive LeadInLanguage (o : GrammarOptions) : List Rule → Prop
  | unit {u : List Rule} : UnitInLanguage o u → LeadInLanguage o u
  | shape {props : List (String × Option Typeset)} : o.fullyQualified = false →
      (o.deep = true → ShapeInLanguage o props) → LeadInLanguage o [.form (.shape props)]

/-- The alternatives after the first, then at most one custom validator. -/
inductive TailInLanguage (o : GrammarOptions) : List Rule → Prop
  | nil : TailInLanguage o []
  | validator (name : String) : TailInLanguage o [.form (.validator name)]
  | cons {u rest : List Rule} : UnitInLanguage o u → TailInLanguage o rest →
      TailInLanguage o (u ++ rest)

/-- An alternative other than a shape: a type, a type with the arguments it takes, or a
nested list. -/
inductive UnitInLanguage (o : GrammarOptions) : List Rule → Prop
  | type (t : TypeName) : UnitInLanguage o [.form (.type t)]
  | typeArgs (t : TypeName) {entries : List (String × Arg)} : t.hasArgs = true →
      (o.deep = true → ArgsInLanguage o t entries) →
      UnitInLanguage o [.form (.type t), .args entries]
  | list {inner : List Rule} : o.fullyQualified = false →
      (o.deep = true → InLanguage o (.list inner)) → UnitInLanguage o [.form (.list inner)]

/-- Arguments of type `t` whose nested typesets are in the language: the `$` of an object
type is a shape, and each typeset argument a collection reads is a typeset. -/
inductive ArgsInLanguage (o : GrammarOptions) : TypeName → List (String × Arg) → Prop
  | mk {t : TypeName} {entries : List (String × Arg)} :
      (t.isObjectType = true → ∀ a, Args.get? entries "$" = some a → ShapeArgInLanguage o a) →
      (t.isObjectType = false → ∀ key ∈ typesetArgNames t, ∀ a, Args.get? entries key = some a →
        TypesetArgInLanguage o a) →
      ArgsInLanguage o t entries

/-- An argument that holds a shape of the language. -/
inductive ShapeArgInLanguage (o : GrammarOptions) : Arg → Prop
  | shape {props : List (String × Option Typeset)} : ShapeInLanguage o props →
      ShapeArgInLanguage o (.typeset (.shape props))

/-- An argument that holds a typeset of the language. -/
inductive TypesetArgInLanguage (o : GrammarOptions) : Arg → Prop
  | typeset {ts : Typeset} : InLanguage o ts → TypesetArgInLanguage o (.typeset ts)

end

/-! ### The walk, one element at a time -/

section Walk

variable {o : GrammarOptions} {qualified : Bool} {length i count : Nat} {scope : ArgsScope}
  {rest : List Rule}

theorem nestAt_eq_error {location : String} {r : Except GrammarError Unit} {e : GrammarError} :
    nestAt location r = .error e ↔ ∃ inner, r = .error inner ∧ e = .nested location inner := by
  cases r <;> simp [nestAt, Except.mapError, eq_comm]

theorem listClosing_eq_ok {validatorAt : Option Nat} :
    listClosing qualified count validatorAt length = .ok () ↔ count ≠ 0 ∨ validatorAt.isSome := by
  unfold listClosing
  cases validatorAt <;> by_cases typed : count = 0 <;> simp [typed]

theorem validateRules_nil :
    validateRules o qualified length i scope count none [] = .ok () ↔ count ≠ 0 := by
  simp [validateRules, listClosing_eq_ok]

theorem validateRules_qualifier_eq_ok {q : Qualifier} :
    validateRules o qualified length i scope count none (.qualifier q :: rest) = .ok () ↔
      i = 0 ∧ validateRules o qualified length (i + 1) scope count none rest = .ok () := by
  by_cases first : i = 0 <;> simp [validateRules, first]

theorem validateRules_type {t : TypeName} :
    validateRules o qualified length i scope count none (.form (.type t) :: rest) =
      validateRules o qualified length (i + 1) (.type t false) (count + 1) none rest := by
  simp [validateRules]

/-- An arguments object needs a type before it that takes arguments and has none yet; with a
deep check its typeset arguments must be sound. -/
theorem validateRules_args_eq_ok {t : TypeName} {entries : List (String × Arg)} :
    validateRules o qualified length i (.type t false) count none (.args entries :: rest) =
        .ok () ↔
      t.hasArgs = true ∧ Rule.ArgsSound o t entries ∧
        validateRules o qualified length (i + 1) (.type t true) count none rest = .ok () := by
  by_cases takes : t.hasArgs = true
  · cases deep : o.deep with
    | false => simp [validateRules, takes, deep, Rule.ArgsSound]
    | true =>
        by_cases objectType : t.isObjectType = true
        · cases checked : validateShapeArg o t entries <;>
            simp [validateRules, Rule.ArgsSound, takes, deep, objectType, checked, nestAt,
              Except.mapError]
        · -- the collection types, each with its own typeset argument names
          simp only [validateRules, takes, deep, objectType, Bool.not_true, Bool.false_eq_true,
            if_false]
          rcases names : typesetArgNames t with _ | ⟨key, _ | ⟨key₂, _ | ⟨key₃, more⟩⟩⟩
          · simp [Rule.ArgsSound, deep, objectType, names]
          · cases checked : validateTypesetArg o t key entries <;>
              simp [Rule.ArgsSound, deep, objectType, names, checked, nestAt, Except.mapError]
          · cases first : validateTypesetArg o t key entries <;>
              cases second : validateTypesetArg o t key₂ entries <;>
              simp [Rule.ArgsSound, deep, objectType, names, first, second, nestAt,
                Except.mapError]
          · cases t <;> simp [typesetArgNames] at names
  · simp [validateRules, takes]

theorem validateRules_args_ne_ok {entries : List (String × Arg)}
    (noPending : ∀ t, scope ≠ .type t false) :
    validateRules o qualified length i scope count none (.args entries :: rest) ≠ .ok () := by
  cases scope with
  | type t typed =>
      cases typed with
      | false => exact absurd rfl (noPending t)
      | true => simp [validateRules]
  | none => simp [validateRules]
  | implied => simp [validateRules]

theorem validateRules_shape_eq_ok {props : List (String × Option Typeset)} :
    validateRules o qualified length i scope count none (.form (.shape props) :: rest) = .ok () ↔
      (i = 0 ∨ (i = 1 ∧ qualified = true)) ∧ o.fullyQualified = false ∧
        (o.deep = true → validateShape o props = .ok ()) ∧
        validateRules o qualified length (i + 1) .implied (count + 1) none rest = .ok () := by
  by_cases leading : i = 0 ∨ (i = 1 ∧ qualified = true)
  · have leadingB : (i == 0 || (i == 1 && qualified)) = true := by
      rcases leading with first | ⟨second, rfl⟩ <;> simp [*]
    cases plain : o.fullyQualified with
    | true => simp [validateRules, leadingB, plain]
    | false =>
        cases deep : o.deep with
        | false => simp [validateRules, leadingB, plain, deep, leading]
        | true =>
            cases checked : validateShape o props <;>
              simp [validateRules, leadingB, plain, deep, leading, checked, nestAt,
                Except.mapError]
  · have trailingB : (i == 0 || (i == 1 && qualified)) = false := by
      simp only [not_or, not_and] at leading
      cases qualified <;> simp_all
    simp [validateRules, trailingB, leading]

theorem validateRules_list_eq_ok {inner : List Rule} :
    validateRules o qualified length i scope count none (.form (.list inner) :: rest) = .ok () ↔
      o.fullyQualified = false ∧ (o.deep = true → validate o (.list inner) = .ok ()) ∧
        validateRules o qualified length (i + 1) .implied (count + 1) none rest = .ok () := by
  cases plain : o.fullyQualified with
  | true => simp [validateRules, plain]
  | false =>
      cases deep : o.deep with
      | false => simp [validateRules, plain, deep]
      | true =>
          cases opened : listOpening o inner with
          | error e => simp [validateRules, validate, plain, deep, opened]
          | ok u =>
              cases walked : validateRules o (inner.head?.any Rule.isQualifier) inner.length 0
                  .none 0 none inner <;>
                simp [validateRules, validate, plain, deep, opened, walked, nestAt,
                  Except.mapError]

theorem validateRules_validator_eq_ok {name : String} :
    validateRules o qualified length i scope count none (.form (.validator name) :: rest) =
        .ok () ↔
      (o.fullyQualified = true → count ≠ 0) ∧ rest = [] := by
  cases rest with
  | nil =>
      by_cases typed : count = 0 <;> cases plain : o.fullyQualified <;>
        simp [validateRules, listClosing, typed, plain]
  | cons r rest =>
      by_cases typed : count = 0 <;> cases plain : o.fullyQualified <;>
        simp [validateRules, typed, plain]

end Walk

/-! ### Soundness: the check accepts only the language -/

section Soundness

variable {o : GrammarOptions}

/-- What may follow the elements of a list read so far, once past its lead: more
alternatives, or first the arguments of the type read last. -/
def TailAfter (o : GrammarOptions) (scope : ArgsScope) (rs : List Rule) : Prop :=
  TailInLanguage o rs ∨ ∃ t entries rest, scope = .type t false ∧ t.hasArgs = true ∧
    (o.deep = true → ArgsInLanguage o t entries) ∧ rs = .args entries :: rest ∧
      TailInLanguage o rest

theorem UnitInLanguage.head_form {u : List Rule} (unit : UnitInLanguage o u) :
    ∃ ts rest, u = .form ts :: rest := by
  cases unit <;> exact ⟨_, _, rfl⟩

theorem BodyInLanguage.head_form {body : List Rule} (read : BodyInLanguage o body) :
    ∃ ts rest, body = .form ts :: rest := by
  cases read with
  | lone name _ => exact ⟨_, _, rfl⟩
  | lead lead _ =>
      cases lead with
      | unit unit =>
          obtain ⟨ts, rest, rfl⟩ := unit.head_form
          exact ⟨ts, _, rfl⟩
      | shape _ _ => exact ⟨_, _, rfl⟩

theorem inLanguage_list {rules : List Rule} (opened : listOpening o rules = .ok ())
    (read : BodyInLanguage o rules ∨ ∃ q body, rules = .qualifier q :: body ∧ BodyInLanguage o body) :
    InLanguage o (.list rules) := by
  rcases read with body | ⟨q, body, rfl, read⟩
  · obtain ⟨ts, rest, rfl⟩ := body.head_form
    have plain : o.fullyQualified = false := by
      cases plain : o.fullyQualified <;> simp_all [listOpening, Rule.isQualifier]
    exact .list plain body
  · exact .qualified q read

theorem not_leading_succ {qualified : Bool} {i : Nat}
    (past : ¬(i = 0 ∨ (i = 1 ∧ qualified = true))) :
    ¬(i + 1 = 0 ∨ (i + 1 = 1 ∧ qualified = true)) := by
  rintro (impossible | ⟨first, -⟩)
  · omega
  · exact past (.inl (by omega))

theorem not_leading_after_lead {qualified : Bool} {rs : List Rule} {i : Nat}
    (leading : (i = 0 ∧ qualified = rs.head?.any Rule.isQualifier) ∨ (i = 1 ∧ qualified = true))
    {ts : Typeset} {rest : List Rule} (head : rs = .form ts :: rest) :
    ¬(i + 1 = 0 ∨ (i + 1 = 1 ∧ qualified = true)) := by
  subst head
  rcases leading with ⟨rfl, rfl⟩ | ⟨rfl, -⟩ <;> simp [Rule.isQualifier]

mutual

theorem inLanguage_of_validate : ∀ {ts : Typeset}, validate o ts = .ok () → InLanguage o ts
  | .type t, valid => .type t (by cases plain : o.fullyQualified <;> simp_all [validate])
  | .validator name, valid =>
      .validator name (by cases plain : o.fullyQualified <;> simp_all [validate])
  | .shape props, valid => by
      cases plain : o.fullyQualified with
      | false =>
          refine .shape plain fun deep => shapeInLanguage_of_validateShape ?_
          simpa [validate, plain, deep] using valid
      | true => simp [validate, plain] at valid
  | .list rules, valid => by
      cases opened : listOpening o rules with
      | error e => simp [validate, opened] at valid
      | ok u =>
          simp only [validate, opened] at valid
          rcases listRead_of_validateRules (.inl ⟨rfl, rfl⟩) valid with body | ⟨-, qualified⟩
          · exact inLanguage_list opened (.inl body)
          · exact inLanguage_list opened (.inr qualified)

theorem shapeInLanguage_of_validateShape :
    ∀ {props : List (String × Option Typeset)}, validateShape o props = .ok () →
      ShapeInLanguage o props
  | [], _ => .nil
  | (k, none) :: rest, valid =>
      .untyped k (shapeInLanguage_of_validateShape (by simpa [validateShape] using valid))
  | (k, some ts) :: rest, valid => by
      cases checked : validate o ts with
      | error e => simp [validateShape, checked, nestAt, Except.mapError] at valid
      | ok u =>
          exact .typed k (inLanguage_of_validate checked) (shapeInLanguage_of_validateShape
            (by simpa [validateShape, checked, nestAt, Except.mapError] using valid))

theorem shapeArg_of_validateShapeArg {t : TypeName} :
    ∀ {entries : List (String × Arg)}, validateShapeArg o t entries = .ok () →
      ∀ a, Args.get? entries "$" = some a → ShapeArgInLanguage o a
  | [], _, a, found => by simp [Args.get?] at found
  | (k, arg) :: rest, valid, a, found => by
      by_cases here : k = "$"
      · subst here
        simp only [Args.get?, List.find?_cons, beq_self_eq_true, Option.map_some,
          Option.some.injEq] at found
        subst found
        cases arg with
        | typeset ts =>
            cases ts with
            | shape props =>
                exact .shape (shapeInLanguage_of_validateShape
                  (by simpa [validateShapeArg, Rule.nestAt_eq_ok] using valid))
            | _ => simp [validateShapeArg] at valid
        | data j => simp [validateShapeArg] at valid
      · have restValid : validateShapeArg o t rest = .ok () := by
          rw [validateShapeArg.eq_def] at valid
          simpa [here] using valid
        exact shapeArg_of_validateShapeArg restValid a (by simpa [Args.get?, here] using found)

theorem typesetArg_of_validateTypesetArg {t : TypeName} {key : String} :
    ∀ {entries : List (String × Arg)}, validateTypesetArg o t key entries = .ok () →
      ∀ a, Args.get? entries key = some a → TypesetArgInLanguage o a
  | [], _, a, found => by simp [Args.get?] at found
  | (k, arg) :: rest, valid, a, found => by
      by_cases here : k = key
      · subst here
        simp only [Args.get?, List.find?_cons, beq_self_eq_true, Option.map_some,
          Option.some.injEq] at found
        subst found
        cases arg with
        | typeset ts =>
            exact .typeset (inLanguage_of_validate
              (by simpa [validateTypesetArg, Rule.nestAt_eq_ok] using valid))
        | data j => simp [validateTypesetArg] at valid
      · have restValid : validateTypesetArg o t key rest = .ok () := by
          rw [validateTypesetArg.eq_def] at valid
          simpa [here] using valid
        exact typesetArg_of_validateTypesetArg restValid a (by simpa [Args.get?, here] using found)

theorem tailAfter_of_validateRules {qualified : Bool} {length : Nat} :
    ∀ {rs : List Rule} {i : Nat} {scope : ArgsScope} {count : Nat},
      ¬(i = 0 ∨ (i = 1 ∧ qualified = true)) →
      validateRules o qualified length i scope count none rs = .ok () → TailAfter o scope rs
  | [], _, _, _, _, _ => .inl .nil
  | .qualifier q :: rest, i, scope, count, past, walked =>
      absurd (.inl (validateRules_qualifier_eq_ok.mp walked).1) past
  | .args entries :: rest, i, scope, count, past, walked => by
      by_cases pending : ∃ t, scope = .type t false
      · obtain ⟨t, rfl⟩ := pending
        obtain ⟨takes, sound, walked⟩ := validateRules_args_eq_ok.mp walked
        have tail : TailInLanguage o rest := by
          rcases tailAfter_of_validateRules (not_leading_succ past) walked with
            tail | ⟨_, _, _, scopeEq, _⟩
          · exact tail
          · cases scopeEq
        refine .inr ⟨t, entries, rest, rfl, takes, fun deep => ?_, rfl, tail⟩
        have sound := sound deep
        constructor
        · intro objectType
          simp only [objectType, if_true] at sound
          exact shapeArg_of_validateShapeArg sound
        · intro collection key named
          simp only [collection, Bool.false_eq_true, if_false] at sound
          exact typesetArg_of_validateTypesetArg (sound key named)
      · exact absurd walked (validateRules_args_ne_ok fun t same => pending ⟨t, same⟩)
  | .form (.type t) :: rest, i, scope, count, past, walked => by
      rw [validateRules_type] at walked
      rcases tailAfter_of_validateRules (not_leading_succ past) walked with
        tail | ⟨t', entries, rest', scopeEq, takes, args, rfl, tail⟩
      · exact .inl (.cons (.type t) tail)
      · cases scopeEq
        exact .inl (.cons (.typeArgs t takes args) tail)
  | .form (.validator name) :: rest, i, scope, count, past, walked => by
      obtain ⟨-, rfl⟩ := validateRules_validator_eq_ok.mp walked
      exact .inl (.validator name)
  | .form (.shape props) :: rest, i, scope, count, past, walked =>
      absurd (validateRules_shape_eq_ok.mp walked).1 past
  | .form (.list inner) :: rest, i, scope, count, past, walked => by
      obtain ⟨plain, nested, walked⟩ := validateRules_list_eq_ok.mp walked
      rcases tailAfter_of_validateRules (not_leading_succ past) walked with
        tail | ⟨_, _, _, scopeEq, _⟩
      · exact .inl (.cons (.list plain fun deep => inLanguage_of_validate (nested deep)) tail)
      · cases scopeEq

theorem listRead_of_validateRules {qualified : Bool} {length : Nat} :
    ∀ {rs : List Rule} {i : Nat},
      ((i = 0 ∧ qualified = rs.head?.any Rule.isQualifier) ∨ (i = 1 ∧ qualified = true)) →
      validateRules o qualified length i .none 0 none rs = .ok () →
        BodyInLanguage o rs ∨
          (i = 0 ∧ ∃ q body, rs = .qualifier q :: body ∧ BodyInLanguage o body)
  | [], _, _, walked => absurd (validateRules_nil.mp walked) (by simp)
  | .qualifier q :: rest, i, leading, walked => by
      obtain ⟨rfl, walked⟩ := validateRules_qualifier_eq_ok.mp walked
      have qualifiedList : qualified = true := by
        rcases leading with ⟨-, same⟩ | ⟨impossible, -⟩
        · simpa [Rule.isQualifier] using same
        · omega
      rcases listRead_of_validateRules (.inr ⟨rfl, qualifiedList⟩) walked with
        body | ⟨impossible, -⟩
      · exact .inr ⟨rfl, q, rest, rfl, body⟩
      · omega
  | .args entries :: rest, i, leading, walked =>
      absurd walked (validateRules_args_ne_ok fun _ impossible => nomatch impossible)
  | .form (.type t) :: rest, i, leading, walked => by
      rw [validateRules_type] at walked
      rcases tailAfter_of_validateRules (not_leading_after_lead leading rfl) walked with
        tail | ⟨t', entries, rest', scopeEq, takes, args, rfl, tail⟩
      · exact .inl (.lead (.unit (.type t)) tail)
      · cases scopeEq
        exact .inl (.lead (.unit (.typeArgs t takes args)) tail)
  | .form (.validator name) :: rest, i, leading, walked => by
      obtain ⟨typed, rfl⟩ := validateRules_validator_eq_ok.mp walked
      have plain : o.fullyQualified = false := by
        cases plain : o.fullyQualified <;> simp_all
      exact .inl (.lone name plain)
  | .form (.shape props) :: rest, i, leading, walked => by
      obtain ⟨-, plain, nested, walked⟩ := validateRules_shape_eq_ok.mp walked
      rcases tailAfter_of_validateRules (not_leading_after_lead leading rfl) walked with
        tail | ⟨_, _, _, scopeEq, _⟩
      · exact .inl (.lead (.shape plain fun deep => shapeInLanguage_of_validateShape (nested deep))
          tail)
      · cases scopeEq
  | .form (.list inner) :: rest, i, leading, walked => by
      obtain ⟨plain, nested, walked⟩ := validateRules_list_eq_ok.mp walked
      rcases tailAfter_of_validateRules (not_leading_after_lead leading rfl) walked with
        tail | ⟨_, _, _, scopeEq, _⟩
      · exact .inl (.lead (.unit (.list plain fun deep => inLanguage_of_validate (nested deep)))
          tail)
      · cases scopeEq

end

end Soundness

/-! ### Completeness: the check accepts the whole language -/

section Completeness

variable {o : GrammarOptions}

theorem validateShapeArg_eq_ok_iff {t : TypeName} :
    ∀ {entries : List (String × Arg)}, validateShapeArg o t entries = .ok () ↔
      ∀ a, Args.get? entries "$" = some a →
        ∃ props, a = .typeset (.shape props) ∧ validateShape o props = .ok ()
  | [] => by simp [validateShapeArg, Args.get?]
  | (k, arg) :: rest => by
      by_cases here : k = "$"
      · subst here
        cases arg with
        | typeset ts =>
            cases ts <;> simp [validateShapeArg, Args.get?, Rule.nestAt_eq_ok]
        | data j => simp [validateShapeArg, Args.get?]
      · rw [validateShapeArg.eq_def]
        simpa [here, Args.get?] using
          (validateShapeArg_eq_ok_iff : validateShapeArg o t rest = .ok () ↔ _)

theorem validateTypesetArg_eq_ok_iff {t : TypeName} {key : String} :
    ∀ {entries : List (String × Arg)}, validateTypesetArg o t key entries = .ok () ↔
      ∀ a, Args.get? entries key = some a → ∃ ts, a = .typeset ts ∧ validate o ts = .ok ()
  | [] => by simp [validateTypesetArg, Args.get?]
  | (k, arg) :: rest => by
      by_cases here : k = key
      · subst here
        cases arg <;> simp [validateTypesetArg, Args.get?, Rule.nestAt_eq_ok]
      · rw [validateTypesetArg.eq_def]
        simpa [here, Args.get?] using
          (validateTypesetArg_eq_ok_iff : validateTypesetArg o t key rest = .ok () ↔ _)

theorem not_leading_of_lead {qualified : Bool} {i j : Nat}
    (leading : (i = 0 ∧ qualified = false) ∨ (i = 1 ∧ qualified = true)) :
    ¬(i + j + 1 = 0 ∨ (i + j + 1 = 1 ∧ qualified = true)) := by
  rintro (impossible | ⟨first, lead⟩)
  · omega
  · rcases leading with ⟨-, plain⟩ | ⟨second, -⟩
    · simp_all
    · omega

theorem not_leading_of_past {qualified : Bool} {i j : Nat}
    (past : ¬(i = 0 ∨ (i = 1 ∧ qualified = true))) :
    ¬(i + j + 1 = 0 ∨ (i + j + 1 = 1 ∧ qualified = true)) := by
  rintro (impossible | ⟨first, -⟩)
  · omega
  · exact past (.inl (by omega))

mutual

theorem validate_of_inLanguage : ∀ {ts : Typeset}, InLanguage o ts → validate o ts = .ok ()
  | _, .type t plain => by simp [validate, plain]
  | _, .validator name plain => by simp [validate, plain]
  | _, .shape plain shapeIn => by
      cases deep : o.deep with
      | false => simp [validate, plain, deep]
      | true => simpa [validate, plain, deep] using validateShape_of_shapeInLanguage (shapeIn deep)
  | .list rules, .list plain body => by
      have walked : validateRules o false rules.length 0 .none 0 none rules = .ok () :=
        validateRules_of_body body (.inl ⟨rfl, rfl⟩)
      obtain ⟨ts, rest, rfl⟩ := body.head_form
      simpa [validate, listOpening, plain, Rule.isQualifier] using walked
  | _, .qualified q body => by
      simp only [validate, listOpening, Rule.isQualifier, Bool.not_true, Bool.and_false,
        Bool.false_eq_true, if_false, List.head?_cons, Option.any_some]
      exact validateRules_qualifier_eq_ok.mpr ⟨rfl, validateRules_of_body body (.inr ⟨rfl, rfl⟩)⟩

theorem validateShape_of_shapeInLanguage :
    ∀ {props : List (String × Option Typeset)}, ShapeInLanguage o props →
      validateShape o props = .ok ()
  | _, .nil => rfl
  | _, .untyped k rest => by simpa [validateShape] using validateShape_of_shapeInLanguage rest
  | _, .typed k ts rest => by
      simp [validateShape, validate_of_inLanguage ts, nestAt, Except.mapError,
        validateShape_of_shapeInLanguage rest]

theorem argsSound_of_argsInLanguage :
    ∀ {t : TypeName} {entries : List (String × Arg)}, ArgsInLanguage o t entries →
      Rule.ArgsSound o t entries
  | t, entries, .mk shapes typesets => fun _ => by
      split
      · rename_i objectType
        exact validateShapeArg_eq_ok_iff.mpr fun a found =>
          validateShape_of_shapeArgInLanguage (shapes objectType a found)
      · rename_i collection
        intro key named
        exact validateTypesetArg_eq_ok_iff.mpr fun a found =>
          validate_of_typesetArgInLanguage (typesets (by simpa using collection) key named a found)

theorem validateShape_of_shapeArgInLanguage : ∀ {a : Arg}, ShapeArgInLanguage o a →
    ∃ props, a = .typeset (.shape props) ∧ validateShape o props = .ok ()
  | _, .shape props => ⟨_, rfl, validateShape_of_shapeInLanguage props⟩

theorem validate_of_typesetArgInLanguage : ∀ {a : Arg}, TypesetArgInLanguage o a →
    ∃ ts, a = .typeset ts ∧ validate o ts = .ok ()
  | _, .typeset ts => ⟨_, rfl, validate_of_inLanguage ts⟩

theorem validateRules_of_unit {qualified : Bool} {length : Nat} :
    ∀ {u : List Rule}, UnitInLanguage o u →
      ∀ {i count : Nat} {scope : ArgsScope} {rest : List Rule},
        (∀ j scope', validateRules o qualified length (i + j + 1) scope' (count + 1) none rest =
          .ok ()) →
        validateRules o qualified length i scope count none (u ++ rest) = .ok ()
  | _, .type t, i, count, scope, rest, after => by
      simpa [validateRules_type] using after 0 (.type t false)
  | _, .typeArgs t takes args, i, count, scope, rest, after => by
      simp only [List.cons_append, List.nil_append, validateRules_type]
      exact validateRules_args_eq_ok.mpr
        ⟨takes, fun deep => argsSound_of_argsInLanguage (args deep) deep, after 1 (.type t true)⟩
  | _, .list plain nested, i, count, scope, rest, after =>
      validateRules_list_eq_ok.mpr
        ⟨plain, fun deep => validate_of_inLanguage (nested deep), by simpa using after 0 .implied⟩

theorem validateRules_of_tail {qualified : Bool} {length : Nat} :
    ∀ {rs : List Rule}, TailInLanguage o rs →
      ∀ {i count : Nat} {scope : ArgsScope}, ¬(i = 0 ∨ (i = 1 ∧ qualified = true)) →
        count ≠ 0 → validateRules o qualified length i scope count none rs = .ok ()
  | _, .nil, _, _, _, _, counted => validateRules_nil.mpr counted
  | _, .validator name, _, _, _, _, counted =>
      validateRules_validator_eq_ok.mpr ⟨fun _ => counted, rfl⟩
  | _, .cons unit rest, _, _, _, past, _ =>
      validateRules_of_unit unit fun _ _ =>
        validateRules_of_tail rest (not_leading_of_past past) (by omega)

theorem validateRules_of_body {qualified : Bool} {length : Nat} :
    ∀ {body : List Rule}, BodyInLanguage o body →
      ∀ {i : Nat}, ((i = 0 ∧ qualified = false) ∨ (i = 1 ∧ qualified = true)) →
        validateRules o qualified length i .none 0 none body = .ok ()
  | _, .lone name plain, _, _ => validateRules_validator_eq_ok.mpr ⟨by simp [plain], rfl⟩
  | _, .lead (.unit unit) rest, i, leading =>
      validateRules_of_unit unit fun _ _ =>
        validateRules_of_tail rest (not_leading_of_lead leading) (by omega)
  | _, .lead (.shape plain shapeIn) rest, i, leading => by
      have leadingAt : i = 0 ∨ (i = 1 ∧ qualified = true) := by
        rcases leading with ⟨first, -⟩ | second
        · exact .inl first
        · exact .inr second
      exact validateRules_shape_eq_ok.mpr ⟨leadingAt, plain,
        fun deep => validateShape_of_shapeInLanguage (shapeIn deep),
        validateRules_of_tail rest (not_leading_of_lead (j := 0) leading) (by omega)⟩
end

end Completeness

/-- The grammar check accepts exactly the typesets of the grammar's language. -/
theorem validate_eq_ok_iff (o : GrammarOptions) (ts : Typeset) :
    validate o ts = .ok () ↔ InLanguage o ts :=
  ⟨inLanguage_of_validate, validate_of_inLanguage⟩

end Typeset

end Conformance
