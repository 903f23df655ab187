import Conformance.Proofs.Language

/-!
# Where a grammar violation is reported

`Typeset.validate` reports the first violation it meets, wrapped in one `nested` location for
each step it took into a nested typeset: `index=i` into the element at index `i` of a list,
`prop="p"` into the typed property `p` of a shape, `args.k` into the argument `k` (`$`,
`$keys` or `$values`) of the type before.

The places the check looks at on their own are the `Site`s: a typeset, the properties of a
shape, the arguments object of a type.  `Located o s path e0` says that the scan of `s` under
options `o` meets, at the end of `path`, a site whose own, non-recursive check fails with `e0`,
and that everything met before passes.  A list is scanned element by element in index order:
the list's own check of an element (`ruleOwn`) comes first, then the site nested in the element,
and the list's closing check after the last element.

Main statement: `validate_error_located`, every violation is reported as the located one under
the labels of its path, with an innermost error that carries no location; without a deep check
the path is empty.  The proof splits `validateRules` into the element's own check and its nested
site (`validateRules_cons`) and follows the mutual recursion of the grammar check.
-/

namespace Conformance

namespace GrammarError

/-- Whether the violation carries a location. -/
def isNested : GrammarError → Bool
  | .nested _ _ => true
  | _ => false

theorem innermost_of_isNested {e : GrammarError} (plain : e.isNested = false) :
    e.innermost = e := by
  cases e <;> simp_all [isNested, innermost]

end GrammarError

namespace Typeset

/-- One step from a site into a site nested in it. -/
inductive Step where
  /-- Into the element at index `i` of a list. -/
  | index (i : Nat)
  /-- Into the typed property `key` of a shape. -/
  | prop (key : String)
  /-- Into the argument `key` of the type before. -/
  | arg (key : String)

/-- The location a step adds to a violation found past it. -/
def Step.label : Step → String
  | .index i => s!"index={i}"
  | .prop key => "prop=\"" ++ key ++ "\""
  | .arg key => "args." ++ key

/-- A violation found at the end of a path, with the location of each step. -/
def nestAlong (path : List Step) (e0 : GrammarError) : GrammarError :=
  path.foldr (fun step e => .nested step.label e) e0

theorem innermost_nestAlong {e0 : GrammarError} (plain : e0.isNested = false) :
    ∀ path, (nestAlong path e0).innermost = e0
  | [] => GrammarError.innermost_of_isNested plain
  | _ :: path => innermost_nestAlong plain path

/-- A place that the grammar check looks at on its own. -/
inductive Site where
  /-- A typeset standing on its own: the whole typeset, a property's or an argument's. -/
  | typeset (t : Typeset)
  /-- The properties of a shape. -/
  | shape (props : List (String × Option Typeset))
  /-- The arguments object of type `t`. -/
  | args (t : TypeName) (entries : Args)

/-- Checks the typeset arguments named `keys`, in order. -/
def validateTypesetArgs (o : GrammarOptions) (t : TypeName) (entries : Args) :
    List String → Except GrammarError Unit
  | [] => .ok ()
  | key :: keys =>
    match validateTypesetArg o t key entries with
    | .error e => .error e
    | .ok () => validateTypesetArgs o t entries keys

/-- Checks the arguments of type `t`: the `$` of an object type, the typeset arguments of a
collection. -/
def validateArgs (o : GrammarOptions) (t : TypeName) (entries : Args) :
    Except GrammarError Unit :=
  if t.isObjectType then validateShapeArg o t entries
  else validateTypesetArgs o t entries (typesetArgNames t)

/-- The whole check of a site, nested sites included. -/
def Site.check (o : GrammarOptions) : Site → Except GrammarError Unit
  | .typeset t => validate o t
  | .shape props => validateShape o props
  | .args t entries => validateArgs o t entries

/-- Where the check of a list stands between two elements: the index of the next element, what
an arguments object may attach to, how many types were seen and where a validator stood. -/
structure ListState where
  index : Nat
  scope : ArgsScope
  count : Nat
  validatorAt : Option Nat

/-- The list's own check of an element: whether it may stand at `st.index`, and the state it
leaves, without looking inside it. -/
def ruleOwn (o : GrammarOptions) (qualified : Bool) : ListState → Rule → Except GrammarError ListState
  | ⟨i, _, _, some j⟩, r =>
    .error (if r.isValidator then .multipleValidators i else .misplacedValidator j)
  | ⟨i, scope, count, none⟩, .qualifier _ =>
    if i != 0 then .error (.misplacedQualifier i) else .ok ⟨i + 1, scope, count, none⟩
  | ⟨i, _, count, none⟩, .form (.type t) => .ok ⟨i + 1, .type t false, count + 1, none⟩
  | ⟨i, .type t false, count, none⟩, .args _ =>
    if !t.hasArgs then .error (.argsNotAccepted i t) else .ok ⟨i + 1, .type t true, count, none⟩
  | ⟨i, _, _, none⟩, .args _ => .error (.argsWithoutType i)
  | ⟨i, _, count, none⟩, .form (.shape _) =>
    if !(i == 0 || (i == 1 && qualified)) then .error (.misplacedShape i)
    else if o.fullyQualified then .error (.shorthandNotAllowed i .shape)
    else .ok ⟨i + 1, .implied, count + 1, none⟩
  | ⟨i, _, count, none⟩, .form (.list _) =>
    if o.fullyQualified then .error (.shorthandNotAllowed i .array)
    else .ok ⟨i + 1, .implied, count + 1, none⟩
  | ⟨i, scope, count, none⟩, .form (.validator _) =>
    if o.fullyQualified && count == 0 then .error .missingType
    else .ok ⟨i + 1, scope, count, some i⟩

/-- The site nested in an element: the arguments of the type in scope, a shape's properties,
a nested list. -/
def ruleSite (st : ListState) : Rule → Option Site
  | .args entries =>
    match st.scope with
    | .type t _ => some (.args t entries)
    | _ => none
  | .form (.shape props) => some (.shape props)
  | .form (.list inner) => some (.typeset (.list inner))
  | _ => none

/-- The deep check of the site nested in an element, located at the element's index. -/
def ruleNested (o : GrammarOptions) (st : ListState) (r : Rule) : Except GrammarError Unit :=
  match ruleSite st r with
  | some s => if o.deep then nestAt (Step.index st.index).label (s.check o) else .ok ()
  | none => .ok ()

mutual

/-- The scan of site `s` under options `o` meets, at the end of `path`, a site whose own check
fails with `e0`, after everything it met before passed. -/
inductive Located (o : GrammarOptions) : Site → List Step → GrammarError → Prop
  /-- A type, a validator or a shape stands alone where the typeset must be fully qualified. -/
  | bare {t : Typeset} : (∀ rules, t ≠ .list rules) → o.fullyQualified = true →
      Located o (.typeset t) [] .qualifierRequired
  /-- A shape standing alone is checked deeply property by property. -/
  | shapeTypeset {props : List (String × Option Typeset)} {path : List Step} {e0 : GrammarError} :
      o.fullyQualified = false → o.deep = true → Located o (.shape props) path e0 →
        Located o (.typeset (.shape props)) path e0
  /-- A list that is empty, or that does not start with a qualifier where it must. -/
  | opening {rules : List Rule} {e0 : GrammarError} : listOpening o rules = .error e0 →
      Located o (.typeset (.list rules)) [] e0
  /-- A list whose elements break the grammar. -/
  | elements {rules : List Rule} {path : List Step} {e0 : GrammarError} :
      listOpening o rules = .ok () →
      RulesLocated o (rules.head?.any Rule.isQualifier) rules.length ⟨0, .none, 0, none⟩ rules
        path e0 →
      Located o (.typeset (.list rules)) path e0
  /-- The typeset of a property breaks the grammar. -/
  | prop {key : String} {ts : Typeset} {rest : List (String × Option Typeset)}
      {path : List Step} {e0 : GrammarError} : Located o (.typeset ts) path e0 →
      Located o (.shape ((key, some ts) :: rest)) (.prop key :: path) e0
  /-- A property passes, and a later one breaks the grammar. -/
  | laterProp {p : String × Option Typeset} {rest : List (String × Option Typeset)}
      {path : List Step} {e0 : GrammarError} : (∀ ts, p.2 = some ts → validate o ts = .ok ()) →
      Located o (.shape rest) path e0 → Located o (.shape (p :: rest)) path e0
  /-- The shape under `$` of an object type breaks the grammar. -/
  | shapeArg {t : TypeName} {props : List (String × Option Typeset)} {rest : Args}
      {path : List Step} {e0 : GrammarError} : t.isObjectType = true →
      Located o (.shape props) path e0 →
      Located o (.args t (("$", .typeset (.shape props)) :: rest)) (.arg "$" :: path) e0
  /-- The `$` of an object type is no shape. -/
  | invalidShapeArg {t : TypeName} {a : Arg} {rest : Args} : t.isObjectType = true →
      (∀ props, a ≠ .typeset (.shape props)) →
      Located o (.args t (("$", a) :: rest)) [] (.invalidShapeArg t)
  /-- An object type's argument other than `$` is not looked at. -/
  | skipShapeArg {t : TypeName} {key : String} {a : Arg} {rest : Args} {path : List Step}
      {e0 : GrammarError} : t.isObjectType = true → key ≠ "$" → Located o (.args t rest) path e0 →
      Located o (.args t ((key, a) :: rest)) path e0
  /-- A typeset argument of a collection type breaks the grammar, after the ones named before
  it passed. -/
  | typesetArg {t : TypeName} {entries : Args} {pre : List String} {key : String}
      {post : List String} {path : List Step} {e0 : GrammarError} : t.isObjectType = false →
      typesetArgNames t = pre ++ key :: post →
      (∀ k ∈ pre, validateTypesetArg o t k entries = .ok ()) →
      KeyLocated o t key entries path e0 → Located o (.args t entries) path e0

/-- The scan of the argument `key` of type `t`: its first entry in `entries` decides. -/
inductive KeyLocated (o : GrammarOptions) :
    TypeName → String → Args → List Step → GrammarError → Prop
  /-- The argument holds a typeset that breaks the grammar. -/
  | typeset {t : TypeName} {key : String} {ts : Typeset} {rest : Args} {path : List Step}
      {e0 : GrammarError} : Located o (.typeset ts) path e0 →
      KeyLocated o t key ((key, .typeset ts) :: rest) (.arg key :: path) e0
  /-- The argument holds data, where a typeset must stand. -/
  | data {t : TypeName} {key : String} {j : Json} {rest : Args} :
      KeyLocated o t key ((key, .data j) :: rest) [] (.invalidTypesetArg key t)
  /-- Other arguments are not looked at. -/
  | skip {t : TypeName} {key k : String} {a : Arg} {rest : Args} {path : List Step}
      {e0 : GrammarError} : k ≠ key → KeyLocated o t key rest path e0 →
      KeyLocated o t key ((k, a) :: rest) path e0

/-- The scan of the elements of a list from state `st` on, where `qualified` says whether the
list starts with a qualifier and `length` is its length. -/
inductive RulesLocated (o : GrammarOptions) :
    Bool → Nat → ListState → List Rule → List Step → GrammarError → Prop
  /-- Past the last element: the list names or implies no type. -/
  | closing {qualified : Bool} {length : Nat} {st : ListState} {e0 : GrammarError} :
      listClosing qualified st.count st.validatorAt length = .error e0 →
      RulesLocated o qualified length st [] [] e0
  /-- The element cannot stand where it stands. -/
  | own {qualified : Bool} {length : Nat} {st : ListState} {r : Rule} {rest : List Rule}
      {e0 : GrammarError} : ruleOwn o qualified st r = .error e0 →
      RulesLocated o qualified length st (r :: rest) [] e0
  /-- The element stands where it stands, and the site nested in it breaks the grammar. -/
  | inside {qualified : Bool} {length : Nat} {st next : ListState} {r : Rule} {rest : List Rule}
      {s : Site} {path : List Step} {e0 : GrammarError} : ruleOwn o qualified st r = .ok next →
      o.deep = true → ruleSite st r = some s → Located o s path e0 →
      RulesLocated o qualified length st (r :: rest) (.index st.index :: path) e0
  /-- The element and the site nested in it pass, and a later element breaks the grammar. -/
  | later {qualified : Bool} {length : Nat} {st next : ListState} {r : Rule} {rest : List Rule}
      {path : List Step} {e0 : GrammarError} : ruleOwn o qualified st r = .ok next →
      (∀ s, ruleSite st r = some s → o.deep = true → s.check o = .ok ()) →
      RulesLocated o qualified length next rest path e0 →
      RulesLocated o qualified length st (r :: rest) path e0

end

/-- A violation `e` is reported as one that `R` locates: `e` is a violation `e0` that carries no
location itself, under the labels of a path that `R` locates it at. -/
def ReportedBy (R : List Step → GrammarError → Prop) (e : GrammarError) : Prop :=
  ∃ path e0, e = nestAlong path e0 ∧ e0.isNested = false ∧ R path e0

namespace ReportedBy

variable {R R' : List Step → GrammarError → Prop} {e : GrammarError}

theorem here (plain : e.isNested = false) (located : R [] e) : ReportedBy R e :=
  ⟨[], e, rfl, plain, located⟩

theorem mono (reported : ReportedBy R' e) (lift : ∀ path e0, R' path e0 → R path e0) :
    ReportedBy R e := by
  obtain ⟨path, e0, nested, plain, located⟩ := reported
  exact ⟨path, e0, nested, plain, lift path e0 located⟩

theorem step (step : Step) (reported : ReportedBy R' e)
    (lift : ∀ path e0, R' path e0 → R (step :: path) e0) :
    ReportedBy R (.nested step.label e) := by
  obtain ⟨path, e0, nested, plain, located⟩ := reported
  exact ⟨step :: path, e0, by simp [nestAlong, nested], plain, lift path e0 located⟩

end ReportedBy

section Walk

variable {o : GrammarOptions} {qualified : Bool} {length : Nat}

/-- The check of a list element is the list's own check of it, then the deep check of the site
nested in it, then the rest of the list from the state the element leaves. -/
theorem validateRules_cons (st : ListState) (r : Rule) (rest : List Rule) :
    validateRules o qualified length st.index st.scope st.count st.validatorAt (r :: rest) =
      match ruleOwn o qualified st r with
      | .error e => .error e
      | .ok next =>
        match ruleNested o st r with
        | .error e => .error e
        | .ok () =>
          validateRules o qualified length next.index next.scope next.count next.validatorAt
            rest := by
  obtain ⟨i, scope, count, validatorAt⟩ := st
  cases validatorAt with
  | some j => simp [validateRules, ruleOwn]
  | none =>
    cases r with
    | qualifier q =>
        by_cases first : i = 0 <;> simp [validateRules, ruleOwn, ruleNested, ruleSite, first]
    | args entries =>
        cases scope with
        | none => simp [validateRules, ruleOwn]
        | implied => simp [validateRules, ruleOwn]
        | type t typed =>
            cases typed with
            | true => simp [validateRules, ruleOwn]
            | false =>
                by_cases takes : t.hasArgs = true
                · cases deep : o.deep with
                  | false => simp [validateRules, ruleOwn, ruleNested, ruleSite, takes, deep]
                  | true =>
                      by_cases objectType : t.isObjectType = true
                      · cases checked : validateShapeArg o t entries <;>
                          simp [validateRules, ruleOwn, ruleNested, ruleSite, Site.check,
                            validateArgs, Step.label, nestAt, Except.mapError, takes, deep,
                            objectType, checked]
                      · -- the typeset arguments of a collection: one or two of them
                        rcases names : typesetArgNames t with _ | ⟨key, _ | ⟨key₂, _ | ⟨key₃, more⟩⟩⟩
                        · simp [validateRules, ruleOwn, ruleNested, ruleSite, Site.check,
                            validateArgs, validateTypesetArgs, nestAt, Except.mapError, takes, deep,
                            objectType, names]
                        · cases checked : validateTypesetArg o t key entries <;>
                            simp [validateRules, ruleOwn, ruleNested, ruleSite, Site.check,
                              validateArgs, validateTypesetArgs, nestAt, Except.mapError, Step.label,
                              takes, deep, objectType, names, checked]
                        · cases first : validateTypesetArg o t key entries <;>
                            cases second : validateTypesetArg o t key₂ entries <;>
                            simp [validateRules, ruleOwn, ruleNested, ruleSite, Site.check,
                              validateArgs, validateTypesetArgs, nestAt, Except.mapError, Step.label,
                              takes, deep, objectType, names, first, second]
                        · cases t <;> simp [typesetArgNames] at names
                · simp [validateRules, ruleOwn, takes]
    | form ts =>
        cases ts with
        | type t => simp [validateRules, ruleOwn, ruleNested, ruleSite]
        | validator name =>
            cases plain : o.fullyQualified <;> by_cases typed : count = 0 <;>
              simp [validateRules, ruleOwn, ruleNested, ruleSite, plain, typed]
        | shape props =>
            by_cases leading : i = 0 ∨ (i = 1 ∧ qualified = true)
            · have leadingB : (i == 0 || (i == 1 && qualified)) = true := by
                rcases leading with first | ⟨second, rfl⟩ <;> simp [*]
              cases plain : o.fullyQualified <;> cases deep : o.deep <;>
                cases checked : validateShape o props <;>
                simp [validateRules, ruleOwn, ruleNested, ruleSite, Site.check, Step.label,
                  nestAt, Except.mapError, leadingB, plain, deep, checked]
            · have trailingB : (i == 0 || (i == 1 && qualified)) = false := by
                simp only [not_or, not_and] at leading
                cases qualified <;> simp_all
              simp [validateRules, ruleOwn, trailingB]
        | list inner =>
            cases plain : o.fullyQualified with
            | true => simp [validateRules, ruleOwn, plain]
            | false =>
                cases deep : o.deep with
                | false => simp [validateRules, ruleOwn, ruleNested, ruleSite, plain, deep]
                | true =>
                    cases opened : listOpening o inner with
                    | error e =>
                        simp [validateRules, ruleOwn, ruleNested, ruleSite, Site.check, validate,
                          Step.label, nestAt, Except.mapError, plain, deep, opened]
                    | ok u =>
                        cases walked : validateRules o (inner.head?.any Rule.isQualifier)
                            inner.length 0 .none 0 none inner <;>
                          simp [validateRules, ruleOwn, ruleNested, ruleSite, Site.check, validate,
                            Step.label, nestAt, Except.mapError, plain, deep, opened, walked]

theorem ruleNested_eq_error {st : ListState} {r : Rule} {e : GrammarError} :
    ruleNested o st r = .error e ↔
      ∃ s e', ruleSite st r = some s ∧ o.deep = true ∧ s.check o = .error e' ∧
        e = .nested (Step.index st.index).label e' := by
  unfold ruleNested
  cases site : ruleSite st r with
  | none => simp
  | some s => cases deep : o.deep <;> simp [nestAt_eq_error]

theorem ruleNested_eq_ok {st : ListState} {r : Rule} :
    ruleNested o st r = .ok () ↔
      ∀ s, ruleSite st r = some s → o.deep = true → s.check o = .ok () := by
  unfold ruleNested
  cases site : ruleSite st r with
  | none => simp
  | some s => cases deep : o.deep <;> simp [Rule.nestAt_eq_ok]

/-! The own checks report plain violations, with no location. -/

theorem ruleOwn_error_plain {st : ListState} {r : Rule} {e0 : GrammarError}
    (failed : ruleOwn o qualified st r = .error e0) : e0.isNested = false := by
  unfold ruleOwn at failed
  split at failed <;> (repeat' split at failed) <;> cases failed <;> rfl

theorem listOpening_error_plain {rules : List Rule} {e0 : GrammarError}
    (failed : listOpening o rules = .error e0) : e0.isNested = false := by
  unfold listOpening at failed
  split at failed <;> (repeat' split at failed) <;> cases failed <;> rfl

theorem listClosing_error_plain {count : Nat} {validatorAt : Option Nat} {e0 : GrammarError}
    (failed : listClosing qualified count validatorAt length = .error e0) :
    e0.isNested = false := by
  unfold listClosing at failed
  split at failed <;> cases failed
  split <;> rfl

theorem validateTypesetArgs_error {t : TypeName} {entries : Args} {e : GrammarError} :
    ∀ {keys : List String}, validateTypesetArgs o t entries keys = .error e →
      ∃ pre key post, keys = pre ++ key :: post ∧
        (∀ k ∈ pre, validateTypesetArg o t k entries = .ok ()) ∧
        validateTypesetArg o t key entries = .error e
  | [], failed => by simp [validateTypesetArgs] at failed
  | key :: keys, failed => by
      cases checked : validateTypesetArg o t key entries with
      | error e' =>
          simp only [validateTypesetArgs, checked, Except.error.injEq] at failed
          subst failed
          exact ⟨[], key, keys, rfl, by simp, checked⟩
      | ok u =>
          obtain ⟨pre, key', post, split, earlier, found⟩ :=
            validateTypesetArgs_error (by simpa [validateTypesetArgs, checked] using failed)
          exact ⟨key :: pre, key', post, by simp [split], List.forall_mem_cons.mpr ⟨checked, earlier⟩,
            found⟩

theorem reports_of_validateArgs {t : TypeName} {entries : Args} {e : GrammarError}
    (shapeArg : t.isObjectType = true → ∀ e, validateShapeArg o t entries = .error e →
      ReportedBy (Located o (.args t entries)) e)
    (typesetArg : ∀ key e, validateTypesetArg o t key entries = .error e →
      ReportedBy (KeyLocated o t key entries) e)
    (failed : validateArgs o t entries = .error e) : ReportedBy (Located o (.args t entries)) e := by
  by_cases objectType : t.isObjectType = true
  · exact shapeArg objectType e (by simpa [validateArgs, objectType] using failed)
  · have collection : t.isObjectType = false := by simpa using objectType
    obtain ⟨pre, key, post, names, earlier, found⟩ :=
      validateTypesetArgs_error (by simpa [validateArgs, collection] using failed)
    exact (typesetArg key e found).mono fun path e0 located =>
      .typesetArg collection names earlier located

theorem reports_of_validateRules_cons {st : ListState} {r : Rule} {rest : List Rule}
    {e : GrammarError}
    (site : ∀ s, ruleSite st r = some s → ∀ e, s.check o = .error e →
      ReportedBy (Located o s) e)
    (later : ∀ (next : ListState) e,
      validateRules o qualified length next.index next.scope next.count next.validatorAt rest =
        .error e → ReportedBy (RulesLocated o qualified length next rest) e)
    (failed : validateRules o qualified length st.index st.scope st.count st.validatorAt
      (r :: rest) = .error e) :
    ReportedBy (RulesLocated o qualified length st (r :: rest)) e := by
  rw [validateRules_cons] at failed
  cases own : ruleOwn o qualified st r with
  | error e0 =>
      simp only [own, Except.error.injEq] at failed
      subst failed
      exact .here (ruleOwn_error_plain own) (.own own)
  | ok next =>
      cases nested : ruleNested o st r with
      | error e' =>
          simp only [own, nested, Except.error.injEq] at failed
          subst failed
          obtain ⟨s, e'', siteEq, deep, checked, rfl⟩ := ruleNested_eq_error.mp nested
          exact (site s siteEq e'' checked).step (.index st.index) fun path e0 located =>
            .inside own deep siteEq located
      | ok u =>
          simp only [own, nested] at failed
          exact (later next e failed).mono fun path e0 located =>
            .later own (ruleNested_eq_ok.mp nested) located

theorem reports_of_bare {t : Typeset} {e : GrammarError} (notList : ∀ rules, t ≠ .list rules)
    (plain : o.fullyQualified = true) (failed : validate o t = .error e) :
    ReportedBy (Located o (.typeset t)) e := by
  have refused : e = .qualifierRequired := by
    cases t with
    | list rules => exact absurd rfl (notList rules)
    | _ => simpa [validate, plain] using failed.symm
  subst refused
  exact .here rfl (.bare notList plain)

theorem reports_of_invalidShapeArg {t : TypeName} (objectType : t.isObjectType = true) {a : Arg}
    {rest : Args} {e : GrammarError} (notShape : ∀ props, a ≠ .typeset (.shape props))
    (failed : validateShapeArg o t (("$", a) :: rest) = .error e) :
    ReportedBy (Located o (.args t (("$", a) :: rest))) e := by
  have refused : e = .invalidShapeArg t := by
    cases a with
    | typeset ts =>
        cases ts with
        | shape props => exact absurd rfl (notShape props)
        | _ => simpa [validateShapeArg] using failed.symm
    | data j => simpa [validateShapeArg] using failed.symm
  subst refused
  exact .here rfl (.invalidShapeArg objectType notShape)

end Walk

section Scan

variable {o : GrammarOptions}

mutual

theorem reports_of_validate :
    ∀ {t : Typeset} {e : GrammarError}, validate o t = .error e →
      ReportedBy (Located o (.typeset t)) e
  | .type n, e, failed => by
      cases plain : o.fullyQualified with
      | false => simp [validate, plain] at failed
      | true => exact reports_of_bare (by simp) plain failed
  | .validator name, e, failed => by
      cases plain : o.fullyQualified with
      | false => simp [validate, plain] at failed
      | true => exact reports_of_bare (by simp) plain failed
  | .shape props, e, failed => by
      cases plain : o.fullyQualified with
      | true => exact reports_of_bare (by simp) plain failed
      | false =>
          cases deep : o.deep with
          | false => simp [validate, plain, deep] at failed
          | true =>
              have checked : validateShape o props = .error e := by
                simpa [validate, plain, deep] using failed
              exact (reports_of_validateShape checked).mono fun path e0 located =>
                .shapeTypeset plain deep located
  | .list rules, e, failed => by
      cases opened : listOpening o rules with
      | error e0 =>
          simp only [validate, opened, Except.error.injEq] at failed
          subst failed
          exact .here (listOpening_error_plain opened) (.opening opened)
      | ok u =>
          simp only [validate, opened] at failed
          exact (reports_of_validateRules ⟨0, .none, 0, none⟩ failed).mono fun path e0 located =>
            .elements opened located

theorem reports_of_validateShape :
    ∀ {props : List (String × Option Typeset)} {e : GrammarError},
      validateShape o props = .error e → ReportedBy (Located o (.shape props)) e
  | [], e, failed => by simp [validateShape] at failed
  | (k, none) :: rest, e, failed =>
      (reports_of_validateShape (by simpa [validateShape] using failed)).mono
        fun path e0 located => .laterProp (by simp) located
  | (k, some ts) :: rest, e, failed => by
      cases checked : validate o ts with
      | error e' =>
          simp only [validateShape, checked, nestAt, Except.mapError, Except.error.injEq] at failed
          subst failed
          exact (reports_of_validate checked).step (.prop k) fun path e0 located => .prop located
      | ok u =>
          have later : validateShape o rest = .error e := by
            simpa [validateShape, checked, nestAt, Except.mapError] using failed
          exact (reports_of_validateShape later).mono fun path e0 located =>
            .laterProp (by simp [checked]) located

theorem reports_of_validateShapeArg {t : TypeName} (objectType : t.isObjectType = true) :
    ∀ {entries : Args} {e : GrammarError}, validateShapeArg o t entries = .error e →
      ReportedBy (Located o (.args t entries)) e
  | [], e, failed => by simp [validateShapeArg] at failed
  | (k, a) :: rest, e, failed => by
      by_cases here : k = "$"
      · subst here
        cases a with
        | typeset ts =>
            cases ts with
            | shape props =>
                cases checked : validateShape o props with
                | error e' =>
                    simp only [validateShapeArg, beq_self_eq_true, if_true, checked, nestAt,
                      Except.mapError, Except.error.injEq] at failed
                    subst failed
                    have label : (Step.arg "$").label = "args.$" := rfl
                    rw [← label]
                    exact (reports_of_validateShape checked).step (.arg "$")
                      fun path e0 located => .shapeArg objectType located
                | ok u => simp [validateShapeArg, checked, nestAt, Except.mapError] at failed
            | type n => exact reports_of_invalidShapeArg objectType (by simp) failed
            | validator name => exact reports_of_invalidShapeArg objectType (by simp) failed
            | list rules => exact reports_of_invalidShapeArg objectType (by simp) failed
        | data j => exact reports_of_invalidShapeArg objectType (by simp) failed
      · have later : validateShapeArg o t rest = .error e := by
          rw [validateShapeArg.eq_def] at failed
          simpa [here] using failed
        exact (reports_of_validateShapeArg objectType later).mono fun path e0 located =>
          .skipShapeArg objectType here located

theorem reports_of_validateTypesetArg {t : TypeName} {key : String} :
    ∀ {entries : Args} {e : GrammarError}, validateTypesetArg o t key entries = .error e →
      ReportedBy (KeyLocated o t key entries) e
  | [], e, failed => by simp [validateTypesetArg] at failed
  | (k, a) :: rest, e, failed => by
      by_cases here : k = key
      · subst here
        cases a with
        | typeset ts =>
            cases checked : validate o ts with
            | error e' =>
                simp only [validateTypesetArg, beq_self_eq_true, if_true, checked, nestAt,
                  Except.mapError, Except.error.injEq] at failed
                subst failed
                exact (reports_of_validate checked).step (.arg k) fun path e0 located =>
                  .typeset located
            | ok u => simp [validateTypesetArg, checked, nestAt, Except.mapError] at failed
        | data j =>
            simp only [validateTypesetArg, beq_self_eq_true, if_true, Except.error.injEq] at failed
            subst failed
            exact .here rfl .data
      · have later : validateTypesetArg o t key rest = .error e := by
          rw [validateTypesetArg.eq_def] at failed
          simpa [here] using failed
        exact (reports_of_validateTypesetArg later).mono fun path e0 located => .skip here located

theorem reports_of_validateRules {qualified : Bool} {length : Nat} :
    ∀ {rules : List Rule} (st : ListState) {e : GrammarError},
      validateRules o qualified length st.index st.scope st.count st.validatorAt rules =
          .error e →
        ReportedBy (RulesLocated o qualified length st rules) e
  | [], st, e, failed => by
      simp only [validateRules] at failed
      exact .here (listClosing_error_plain failed) (.closing failed)
  | .qualifier q :: rest, st, e, failed =>
      reports_of_validateRules_cons (fun s site => by simp [ruleSite] at site)
        (fun next e' => reports_of_validateRules next) failed
  | .args entries :: rest, st, e, failed =>
      reports_of_validateRules_cons
        (fun s site e' checked => by
          cases scope : st.scope with
          | type t typed =>
              simp only [ruleSite, scope, Option.some.injEq] at site
              subst site
              exact reports_of_validateArgs
                (fun objectType e'' => reports_of_validateShapeArg objectType)
                (fun key e'' => reports_of_validateTypesetArg) checked
          | none => simp [ruleSite, scope] at site
          | implied => simp [ruleSite, scope] at site)
        (fun next e' => reports_of_validateRules next) failed
  | .form (.type n) :: rest, st, e, failed =>
      reports_of_validateRules_cons (fun s site => by simp [ruleSite] at site)
        (fun next e' => reports_of_validateRules next) failed
  | .form (.validator name) :: rest, st, e, failed =>
      reports_of_validateRules_cons (fun s site => by simp [ruleSite] at site)
        (fun next e' => reports_of_validateRules next) failed
  | .form (.shape props) :: rest, st, e, failed =>
      reports_of_validateRules_cons
        (fun s site e' checked => by
          simp only [ruleSite, Option.some.injEq] at site
          subst site
          exact reports_of_validateShape checked)
        (fun next e' => reports_of_validateRules next) failed
  | .form (.list inner) :: rest, st, e, failed =>
      reports_of_validateRules_cons
        (fun s site e' checked => by
          simp only [ruleSite, Option.some.injEq] at site
          subst site
          exact reports_of_validate checked)
        (fun next e' => reports_of_validateRules next) failed

end

end Scan

theorem RulesLocated.path_eq_nil {o : GrammarOptions} (shallow : o.deep = false)
    {qualified : Bool} {length : Nat} :
    ∀ {rules : List Rule} {st : ListState} {path : List Step} {e0 : GrammarError},
      RulesLocated o qualified length st rules path e0 → path = []
  | [], st, path, e0, located => by cases located; rfl
  | r :: rest, st, path, e0, located => by
      cases located with
      | own _ => rfl
      | inside _ deep _ _ => simp [shallow] at deep
      | later _ _ later => exact RulesLocated.path_eq_nil shallow later

theorem Located.path_eq_nil_of_typeset {o : GrammarOptions} (shallow : o.deep = false)
    {t : Typeset} {path : List Step} {e0 : GrammarError} (located : Located o (.typeset t) path e0) :
    path = [] := by
  cases located with
  | bare _ _ => rfl
  | shapeTypeset _ deep _ => simp [shallow] at deep
  | opening _ => rfl
  | elements _ elements => exact RulesLocated.path_eq_nil shallow elements

/-- A grammar violation is reported as the first violation that the scan of the typeset meets,
under one location for each step from the typeset down to the site whose own check failed; that
violation carries no location itself, and without a deep check there are no steps. -/
theorem validate_error_located (o : GrammarOptions) (t : Typeset) (e : GrammarError)
    (failed : validate o t = .error e) :
    ∃ path e0, e = nestAlong path e0 ∧ e.innermost = e0 ∧ e0.isNested = false ∧
      Located o (.typeset t) path e0 ∧ (o.deep = false → path = []) := by
  obtain ⟨path, e0, reported, plain, located⟩ := reports_of_validate failed
  refine ⟨path, e0, reported, ?_, plain, located, fun shallow =>
    located.path_eq_nil_of_typeset shallow⟩
  rw [reported]
  exact innermost_nestAlong plain path

/-- `{"foo": [{"bar": [[]]}]}` checked deeply: the empty list is reported four steps down. -/
theorem validate_error_located_deepEmptyList :
    let t : Typeset :=
      .shape [("foo", some (.list [.form (.shape [("bar", some (.list [.form (.list [])]))])]))]
    let e : GrammarError :=
      .nested "prop=\"foo\"" (.nested "index=0" (.nested "prop=\"bar\"" (.nested "index=0"
        .emptyList)))
    validate ⟨true, false⟩ t = .error e ∧
      ∃ path e0, e = nestAlong path e0 ∧ e.innermost = e0 ∧ e0.isNested = false ∧
        Located ⟨true, false⟩ (.typeset t) path e0 ∧
        (GrammarOptions.deep ⟨true, false⟩ = false → path = []) := by
  intro t e
  have failed : validate ⟨true, false⟩ t = .error e := rfl
  exact ⟨failed, validate_error_located _ _ _ failed⟩

end Typeset

end Conformance
