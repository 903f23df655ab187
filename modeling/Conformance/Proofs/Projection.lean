import Conformance.Proofs.Absence
import Conformance.Proofs.Location

/-!
# The minimum viable value is the checked part of the value

A check that accepts a value gives its minimum viable value: the part of the value that the
typeset describes, built from the minimum viable values of the children it checked.  A value
that the qualifier lets through, and a value of a type that holds no children, is its own
minimum viable value.  Otherwise the validator of the alternative that accepted the value builds
it:

* an array: the elements' values against `$`, one per element, or `[]` without a well-formed
  `$`;
* an object type: a plain object with the shape's typed properties in the shape's order, each
  with the value of the property (or of `undefined` when the value lacks it), or `{}` without a
  shape;
* a `hashMap`: the value's properties in order, each with the value its check gave (its deep
  retry included), or `{}` without a well-formed `$values`;
* a `map`: the entries with the values of key and value (`undefined` where no typeset is
  given), added one after the other so that an equal key keeps its place and takes the later
  value, or the empty map when neither `$keys` nor `$values` is given;
* a `set`: the elements' values with later equal ones dropped, or the empty set.

Properties are added the way an ordered object adds them (`Check.addProp`): a name already
there keeps its place and takes the new value.

Main statement: `Engine.checkIn_mvv_projection`.  Each loop of a composite validator gets a
lemma that reads its accepted answer back as the children's answers (`checkElements_success`
and the like), each validator a lemma built on it, and the engine's levels pass the value of
the first accepting alternative through unchanged.
-/

namespace Conformance

namespace Check

/-! ### What each validator builds -/

/-- Adds a property to an object built in order: a name already there keeps its place and takes
the new value, a new name goes last. -/
def addProp (props : List (String × Value)) (p : String × Value) : List (String × Value) :=
  if props.any (·.1 == p.1) then props.map fun q => if q.1 == p.1 then p else q
  else props ++ [p]

/-- The typed properties of a shape, in the shape's order. -/
def typedProps (shape : List (String × Option Typeset)) : List (String × Typeset) :=
  shape.filterMap fun p => p.2.map (p.1, ·)

/-- The value of a child checked against a typeset that may be absent: its own minimum viable
value, or `undefined` when there is no typeset. -/
def ChildMvv (recur : Recur) (ts? : Option Typeset) (x : Value) (cctx : Context)
    (mvv : Value) : Prop :=
  match ts? with
  | some ts => recur x ts cctx = .ok (.success mvv)
  | none => mvv = .undefined

/-- The property `p` of a shape, checked on `v`, gives the member `mp`: the same name, with the
minimum viable value of the property (`undefined` when `v` lacks it). -/
def PropMvv (recur : Recur) (v : Value) (ctx : Context) (p : String × Typeset)
    (mp : String × Value) : Prop :=
  mp.1 = p.1 ∧
    recur ((Value.prop? (propsOf v) p.1).getD .undefined) p.2 (ctx.derive v (some (.prop p.1))) =
      .ok (.success mp.2)

/-- The property `p` of a dictionary gives the member `mp`: the same name, with the minimum
viable value of the property's value against `ts`, or, when the value fails there and `deep` is
set, against the dictionary's own typeset. -/
def DictMvv (recur : Recur) (v : Value) (q : Qualifier) (args : Args) (ts : Typeset) (ctx : Context)
    (p : String × Value) (mp : String × Value) : Prop :=
  mp.1 = p.1 ∧
    (recur p.2 ts (ctx.derive v (some (.prop p.1))) = .ok (.success mp.2) ∨
      (∃ mm, recur p.2 ts (ctx.derive v (some (.prop p.1))) = .ok (.failure mm)) ∧
        Args.flag? args "deep" = some true ∧
        recur p.2 (.list [.qualifier q, .form (.type .hashMap), .args args])
          (ctx.derive v (some (.prop p.1))) = .ok (.success mp.2))

/-- The entry `e` of a map gives the values `me` of its key and its value. -/
def EntryMvv (recur : Recur) (v : Value) (keysTs valuesTs : Option Typeset) (ctx : Context)
    (e : Value × Value) (me : Value × Value) : Prop :=
  ChildMvv recur keysTs e.1 (ctx.derive v none) me.1 ∧
    ChildMvv recur valuesTs e.2 (ctx.derive v (some (.key e.1))) me.2

/-- The minimum viable value `m` of an array accepted with `args`. -/
def ArrayMvv (recur : Recur) (v : Value) (args : Option Args) (ctx : Context) (m : Value) :
    Prop :=
  ∃ items, v = .array items ∧
    match args.bind (typesetArg · "$") with
    | none => m = .array []
    | some ts => ∃ ms, List.Forall₂ (fun (x : Value × Nat) mx =>
        recur x.1 ts (ctx.derive v (some (.index x.2))) = .ok (.success mx)) items.zipIdx ms ∧
        m = .array ms

/-- The minimum viable value `m` of a value accepted by an object type with `args`. -/
def ObjectMvv (recur : Recur) (v : Value) (args : Option Args) (ctx : Context) (m : Value) :
    Prop :=
  match args.bind (Args.shape? · "$") with
  | none => m = .object none []
  | some shape => ∃ ms, List.Forall₂ (PropMvv recur v ctx) (typedProps shape) ms ∧
      m = .object none (ms.foldl addProp [])

/-- The minimum viable value `m` of a `hashMap` accepted under `q` with `args`. -/
def HashMapMvv (recur : Recur) (v : Value) (q : Qualifier) (args : Option Args) (ctx : Context)
    (m : Value) : Prop :=
  ∃ cls props, v = .object cls props ∧
    match args with
    | none => m = .object none []
    | some a =>
      match typesetArg a "$values" with
      | none => m = .object none []
      | some ts => ∃ ms, List.Forall₂ (DictMvv recur v q a ts ctx) props ms ∧
          m = .object none (ms.foldl addProp [])

/-- The minimum viable value `m` of a `map` accepted with `args`. -/
def MapMvv (recur : Recur) (v : Value) (args : Option Args) (ctx : Context) (m : Value) : Prop :=
  ∃ entries, v = .map entries ∧
    let keysTs := args.bind (typesetArg · "$keys")
    let valuesTs := args.bind (typesetArg · "$values")
    if keysTs.isNone && valuesTs.isNone then m = .map []
    else ∃ mes, List.Forall₂ (EntryMvv recur v keysTs valuesTs ctx) entries mes ∧
      m = .map (mes.foldl (fun acc me => setEntry acc me.1 me.2) [])

/-- The minimum viable value `m` of a `set` accepted with `args`. -/
def SetMvv (recur : Recur) (v : Value) (args : Option Args) (ctx : Context) (m : Value) : Prop :=
  ∃ items, v = .set items ∧
    match args.bind (typesetArg · "$values") with
    | none => m = .set []
    | some ts => ∃ ms, List.Forall₂ (fun x mx => recur x ts (ctx.derive v none) = .ok (.success mx))
        items ms ∧ m = Value.setOf ms

/-- The minimum viable value `m` that the validator of type `t` gives to a value `v` it accepts
under `q` and `args`, read off the minimum viable values of the children it checks with
`recur`: the value itself when the qualifier lets it through or the type holds no children. -/
def Projects (recur : Recur) (t : TypeName) (v : Value) (q : Qualifier) (args : Option Args)
    (ctx : Context) (m : Value) : Prop :=
  if q.permits v then m = v
  else
    match t with
    | .array => ArrayMvv recur v args ctx m
    | .anyObject | .object | .plainObject | .classObject => ObjectMvv recur v args ctx m
    | .hashMap => HashMapMvv recur v q args ctx m
    | .map => MapMvv recur v args ctx m
    | .set => SetMvv recur v args ctx m
    | _ => m = v

/-! ### Accumulators -/

theorem reverse_addPropRev (acc : List (String × Value)) (k : String) (mvv : Value) :
    (if acc.any (·.1 == k) then acc.map (fun p => if p.1 == k then (k, mvv) else p)
      else (k, mvv) :: acc).reverse = addProp acc.reverse (k, mvv) := by
  by_cases present : acc.any (·.1 == k) = true
  · simp [addProp, present, List.map_reverse]
  · simp [addProp, present]

theorem childFailure_ne_success {v : Value} {t : TypeName} {q : Qualifier} {args : Option Args}
    {segment : String} {child : Mismatch} {m : Value} :
    childFailure v t q args segment child ≠ .ok (.success m) := by
  unfold childFailure
  cases typesetOf t (some q) args false <;> simp [Except.map]

theorem mismatchAt_ne_success {v : Value} {t : TypeName} {q : Qualifier} {args : Option Args}
    {path : List String} {m : Value} :
    (mismatchAt v t q args path).map Verdict.failure ≠ .ok (.success m) := by
  cases mismatchAt v t q args path <;> simp [Except.map]

theorem mismatch_ne_success {v : Value} {t : TypeName} {q : Qualifier} {args : Option Args}
    {m : Value} : mismatch v t q args ≠ .ok (.success m) :=
  mismatchAt_ne_success

/-! ### The loops of the composite validators -/

section Loops

variable {recur : Recur} {ctx : Context} {q : Qualifier} {m : Value}

/-- An accepted array: one value per element, after the values already gathered. -/
theorem checkElements_success {arr : Value} {ts : Typeset} {t : TypeName} {args : Option Args} :
    ∀ {items : List Value} {i : Nat} {acc : List Value},
      checkElements recur arr ts ctx t q args i acc items = .ok (.success m) →
      ∃ ms, List.Forall₂ (fun (x : Value × Nat) mx =>
          recur x.1 ts (ctx.derive arr (some (.index x.2))) = .ok (.success mx)) (items.zipIdx i) ms ∧
        m = .array (acc.reverse ++ ms)
  | [], i, acc, accepted => by
      simp only [checkElements, Except.ok.injEq, Verdict.success.injEq] at accepted
      exact ⟨[], .nil, by simp [accepted]⟩
  | x :: rest, i, acc, accepted => by
      simp only [checkElements] at accepted
      split at accepted
      · cases accepted
      · rename_i mx checked
        obtain ⟨ms, each, rfl⟩ := checkElements_success accepted
        refine ⟨mx :: ms, ?_, by simp⟩
        rw [List.zipIdx_cons]
        exact .cons checked each
      · exact absurd accepted childFailure_ne_success

theorem checkShape_success {v : Value} {shape : List (String × Option Typeset)} :
    ∀ {rest : List (String × Option Typeset)} {acc : List (String × Value)},
      checkShape recur v shape ctx acc rest = .ok (.success m) →
      ∃ ms, List.Forall₂ (PropMvv recur v ctx) (typedProps rest) ms ∧
        m = .object none (ms.foldl addProp acc.reverse)
  | [], acc, accepted => by
      simp only [checkShape, Except.ok.injEq, Verdict.success.injEq] at accepted
      exact ⟨[], .nil, accepted.symm⟩
  | (k, none) :: rest, acc, accepted => by
      simp only [checkShape] at accepted
      simpa [typedProps] using checkShape_success accepted
  | (k, some ts) :: rest, acc, accepted => by
      simp only [checkShape] at accepted
      split at accepted
      · cases accepted
      · rename_i mvv checked
        obtain ⟨ms, each, rfl⟩ := checkShape_success accepted
        refine ⟨(k, mvv) :: ms, .cons ⟨rfl, checked⟩ each, ?_⟩
        rw [reverse_addPropRev]
        rfl
      · cases accepted

section Dictionary

variable {v : Value} {args : Args} {keyExp : Option Pattern.Compiled}

theorem checkDictionaryValue_success {ts : Typeset} {x : Value} {cctx : Context}
    (accepted : checkDictionaryValue recur q args ts x cctx = .ok (.success m)) :
    recur x ts cctx = .ok (.success m) ∨
      (∃ mm, recur x ts cctx = .ok (.failure mm)) ∧ Args.flag? args "deep" = some true ∧
        recur x (.list [.qualifier q, .form (.type .hashMap), .args args]) cctx =
          .ok (.success m) := by
  unfold checkDictionaryValue at accepted
  cases checked : recur x ts cctx with
  | error err => simp [checked] at accepted
  | ok verdict =>
      cases verdict with
      | success mvv =>
          simp only [checked] at accepted
          exact .inl accepted
      | failure mm =>
          simp only [checked] at accepted
          by_cases deep : Args.flag? args "deep" = some true
          · simp only [deep, beq_self_eq_true, if_true] at accepted
            exact .inr ⟨⟨mm, rfl⟩, deep, accepted⟩
          · simp [deep] at accepted

theorem checkDictionary_success_values {ts : Typeset} :
    ∀ {props acc : List (String × Value)},
      checkDictionary recur v q args keyExp (some ts) ctx acc props = .ok (.success m) →
      ∃ ms, List.Forall₂ (DictMvv recur v q args ts ctx) props ms ∧
        m = .object none (ms.foldl addProp acc.reverse)
  | [], acc, accepted => by
      simp only [checkDictionary, Except.ok.injEq, Verdict.success.injEq] at accepted
      exact ⟨[], .nil, accepted.symm⟩
  | (k, x) :: rest, acc, accepted => by
      simp only [checkDictionary] at accepted
      split at accepted
      · exact absurd accepted mismatchAt_ne_success
      · split at accepted
        · cases accepted
        · rename_i mvv checked
          obtain ⟨ms, each, rfl⟩ := checkDictionary_success_values accepted
          refine ⟨(k, mvv) :: ms, .cons ⟨rfl, checkDictionaryValue_success checked⟩ each, ?_⟩
          rw [reverse_addPropRev]
          rfl
        · exact absurd accepted childFailure_ne_success

theorem checkDictionary_success_keys :
    ∀ {props acc : List (String × Value)},
      checkDictionary recur v q args keyExp none ctx acc props = .ok (.success m) →
      m = .object none acc.reverse
  | [], acc, accepted => by
      simp only [checkDictionary, Except.ok.injEq, Verdict.success.injEq] at accepted
      exact accepted.symm
  | (k, x) :: rest, acc, accepted => by
      simp only [checkDictionary] at accepted
      split at accepted
      · exact absurd accepted mismatchAt_ne_success
      · exact checkDictionary_success_keys accepted

end Dictionary

theorem checkOptional_ok_iff {ts? : Option Typeset} {x : Value} {cctx : Context} {mvv : Value} :
    checkOptional recur ts? x cctx = .ok (.ok mvv) ↔ ChildMvv recur ts? x cctx mvv := by
  cases ts? with
  | none => simp [checkOptional, ChildMvv, eq_comm]
  | some ts =>
      simp only [checkOptional, ChildMvv]
      split <;> simp_all

theorem checkEntries_success {v : Value} {args : Args} {keysTs valuesTs : Option Typeset}
    {keyExp : Option Pattern.Compiled} :
    ∀ {entries acc : List (Value × Value)},
      checkEntries recur v q args keysTs keyExp valuesTs ctx acc entries = .ok (.success m) →
      ∃ mes, List.Forall₂ (EntryMvv recur v keysTs valuesTs ctx) entries mes ∧
        m = .map (if keysTs.isSome || valuesTs.isSome then
          mes.foldl (fun acc me => setEntry acc me.1 me.2) acc else acc)
  | [], acc, accepted => by
      simp only [checkEntries, Except.ok.injEq, Verdict.success.injEq] at accepted
      exact ⟨[], .nil, by simp [accepted]⟩
  | (key, x) :: rest, acc, accepted => by
      simp only [checkEntries] at accepted
      split at accepted
      · cases accepted
      · exact absurd accepted childFailure_ne_success
      · rename_i keyMvv keyChecked
        split at accepted
        · exact absurd accepted mismatchAt_ne_success
        · split at accepted
          · cases accepted
          · exact absurd accepted childFailure_ne_success
          · rename_i valueMvv valueChecked
            obtain ⟨mes, each, rfl⟩ := checkEntries_success accepted
            refine ⟨(keyMvv, valueMvv) :: mes,
              .cons ⟨checkOptional_ok_iff.mp keyChecked, checkOptional_ok_iff.mp valueChecked⟩ each,
              ?_⟩
            cases keysTs.isSome || valuesTs.isSome <;> rfl

theorem checkMembers_success {v : Value} {args : Args} {ts : Typeset} :
    ∀ {items acc : List Value},
      checkMembers recur v q args ts ctx acc items = .ok (.success m) →
      ∃ ms, List.Forall₂ (fun x mx => recur x ts (ctx.derive v none) = .ok (.success mx)) items ms ∧
        m = .set (ms.foldl Value.insertDistinct acc)
  | [], acc, accepted => by
      simp only [checkMembers, Except.ok.injEq, Verdict.success.injEq] at accepted
      exact ⟨[], .nil, accepted.symm⟩
  | x :: rest, acc, accepted => by
      simp only [checkMembers] at accepted
      split at accepted
      · cases accepted
      · rename_i mx checked
        obtain ⟨ms, each, rfl⟩ := checkMembers_success accepted
        exact ⟨mx :: ms, .cons checked each, rfl⟩
      · exact absurd accepted childFailure_ne_success

end Loops

/-! ### Each validator -/

section Validators

variable {recur : Recur} {v : Value} {q : Qualifier} {args : Option Args} {ctx : Context}
  {m : Value}

theorem decided_success {r : Except TypesetError Bool} {t : TypeName}
    (accepted : (match r with
      | .error e => .error e
      | .ok true => .ok (.success v)
      | .ok false => mismatch v t q args) = Except.ok (Verdict.success m)) : m = v := by
  cases r with
  | error e => cases accepted
  | ok answer =>
      cases answer with
      | true =>
          cases accepted
          rfl
      | false => exact absurd accepted mismatch_ne_success

theorem tested_success {c : Bool} {t : TypeName}
    (accepted : (if c then .ok (.success v) else mismatch v t q args) = .ok (.success m)) :
    m = v := by
  cases c with
  | true =>
      cases accepted
      rfl
  | false => exact absurd accepted mismatch_ne_success

theorem refusedOr_success {c : Bool} {r₁ r₂ : Except TypesetError Verdict}
    (accepted : (if c then r₁ else r₂) = .ok (.success m))
    (refuses : r₁ ≠ .ok (.success m)) : r₂ = .ok (.success m) := by
  cases c with
  | true => exact absurd accepted refuses
  | false => exact accepted

theorem unrefused_success {c : Bool} {t : TypeName} {r : Except TypesetError Verdict}
    (accepted : (if c then mismatch v t q args else r) = .ok (.success m)) :
    r = .ok (.success m) := by
  cases c with
  | true => exact absurd accepted mismatch_ne_success
  | false => exact accepted

theorem validatePredicate_success {t : TypeName}
    (accepted : validatePredicate t v q args = .ok (.success m)) : m = v :=
  tested_success accepted

theorem validateString_success (accepted : validateString v q args = .ok (.success m)) : m = v := by
  unfold validateString at accepted
  split at accepted
  · cases accepted
    rfl
  · exact decided_success accepted

theorem validateNumber_success {t : TypeName}
    (accepted : validateNumber t v q args = .ok (.success m)) : m = v := by
  unfold validateNumber at accepted
  split at accepted
  · cases accepted
    rfl
  · exact tested_success accepted

theorem validateArray_success (notPermitted : q.permits v = false)
    (accepted : validateArray recur v q args ctx = .ok (.success m)) : ArrayMvv recur v args ctx m := by
  simp only [validateArray, notPermitted, Bool.false_eq_true, if_false] at accepted
  cases v with
  | array items =>
      refine ⟨items, rfl, ?_⟩
      cases args with
      | none =>
          cases accepted
          rfl
      | some a =>
          have sized := unrefused_success accepted
          cases typed : typesetArg a "$" with
          | none =>
              simp only [typed] at sized
              cases sized
              simp [typed]
          | some ts =>
              simp only [typed] at sized
              obtain ⟨ms, each, rfl⟩ := checkElements_success sized
              simp only [Option.bind_some, typed]
              exact ⟨ms, each, by simp⟩
  | _ => exact absurd accepted mismatch_ne_success

theorem validateObject_success {t : TypeName} (notPermitted : q.permits v = false)
    (accepted : validateObject recur t v q args ctx = .ok (.success m)) :
    ObjectMvv recur v args ctx m := by
  simp only [validateObject, notPermitted, Bool.false_eq_true, if_false] at accepted
  have admitted := refusedOr_success accepted (by
    intro refused
    split at refused <;> cases refused)
  unfold ObjectMvv
  cases shaped : args.bind (Args.shape? · "$") with
  | none =>
      simp only [shaped] at admitted
      cases admitted
      rfl
  | some shape =>
      simp only [shaped] at admitted
      exact checkShape_success admitted

theorem validateHashMap_success (notPermitted : q.permits v = false)
    (accepted : validateHashMap recur v q args ctx = .ok (.success m)) :
    HashMapMvv recur v q args ctx m := by
  simp only [validateHashMap, notPermitted, Bool.false_eq_true, if_false] at accepted
  cases v with
  | object cls props =>
      refine ⟨cls, props, rfl, ?_⟩
      cases args with
      | none =>
          cases accepted
          rfl
      | some a =>
          have sized := unrefused_success accepted
          cases compiled : keyPattern a with
          | error err => simp [compiled] at sized
          | ok keyExp =>
              simp only [compiled] at sized
              cases valued : typesetArg a "$values" with
              | none =>
                  simp only [valued, Option.isNone_none, Bool.and_true] at sized ⊢
                  cases keyExp with
                  | none =>
                      cases sized
                      rfl
                  | some pattern => exact checkDictionary_success_keys sized
              | some ts =>
                  simp only [valued, Option.isNone_some, Bool.and_false, Bool.false_eq_true,
                    if_false] at sized ⊢
                  exact checkDictionary_success_values sized
  | _ => exact absurd accepted mismatch_ne_success

theorem validateMap_success (notPermitted : q.permits v = false)
    (accepted : validateMap recur v q args ctx = .ok (.success m)) : MapMvv recur v args ctx m := by
  simp only [validateMap, notPermitted, Bool.false_eq_true, if_false] at accepted
  cases v with
  | map entries =>
      refine ⟨entries, rfl, ?_⟩
      cases args with
      | none =>
          cases accepted
          simp
      | some a =>
          have sized := unrefused_success accepted
          have either : ((typesetArg a "$keys").isSome || (typesetArg a "$values").isSome) =
              !((typesetArg a "$keys").isNone && (typesetArg a "$values").isNone) := by
            cases typesetArg a "$keys" <;> cases typesetArg a "$values" <;> rfl
          simp only [Option.bind_some]
          split at sized
          · cases sized
          · split at sized
            · -- nothing to check the entries against
              rename_i absent
              cases sized
              have untyped : ((typesetArg a "$keys").isNone &&
                  (typesetArg a "$values").isNone) = true := by
                simp only [Bool.and_eq_true] at absent ⊢
                exact absent.1
              simp [untyped]
            · obtain ⟨mes, each, rfl⟩ := checkEntries_success sized
              cases typed : ((typesetArg a "$keys").isNone && (typesetArg a "$values").isNone)
              · simp only [either, typed, Bool.not_false, if_true, Bool.false_eq_true, if_false]
                exact ⟨mes, each, rfl⟩
              · simp [either, typed]
  | _ => exact absurd accepted mismatch_ne_success

theorem validateSet_success (notPermitted : q.permits v = false)
    (accepted : validateSet recur v q args ctx = .ok (.success m)) : SetMvv recur v args ctx m := by
  simp only [validateSet, notPermitted, Bool.false_eq_true, if_false] at accepted
  cases v with
  | set items =>
      refine ⟨items, rfl, ?_⟩
      cases args with
      | none =>
          cases accepted
          rfl
      | some a =>
          have sized := unrefused_success accepted
          cases valued : typesetArg a "$values" with
          | none =>
              simp only [valued] at sized
              cases sized
              simp [valued]
          | some ts =>
              simp only [valued] at sized
              obtain ⟨ms, each, rfl⟩ := checkMembers_success sized
              simp only [Option.bind_some, valued]
              exact ⟨ms, each, rfl⟩
  | _ => exact absurd accepted mismatch_ne_success

theorem validateType_projects {t : TypeName}
    (accepted : validateType recur t v q args ctx = .ok (.success m)) :
    Projects recur t v q args ctx m := by
  unfold Projects
  cases permitted : q.permits v with
  | true =>
      rw [validateType_permitted permitted] at accepted
      cases accepted
      rfl
  | false =>
      simp only [Bool.false_eq_true, if_false]
      cases t with
      | array => exact validateArray_success permitted accepted
      | anyObject | object | plainObject | classObject =>
          exact validateObject_success permitted accepted
      | hashMap => exact validateHashMap_success permitted accepted
      | map => exact validateMap_success permitted accepted
      | set => exact validateSet_success permitted accepted
      | string => exact validateString_success accepted
      | number | finite | int | safeInt | float => exact validateNumber_success accepted
      | any | null | boolean | function | regexp | date | error | json =>
          exact validatePredicate_success accepted

end Validators

/-! ### The engine's levels -/

section Levels

variable {e : Engine} {recur : Recur} {v : Value} {ctx : Context} {m : Value}

theorem runValidator_success {ts : Typeset} {t : TypeName} {q : Qualifier} {args : Option Args}
    (accepted : runValidator e recur v ts t q args ctx = .ok (.success m)) :
    e.has t = true ∧ validateType recur t v q args ctx = .ok (.success m) := by
  unfold runValidator at accepted
  cases known : e.has t with
  | false => simp [known] at accepted
  | true =>
      simp only [known, Bool.not_true, Bool.false_eq_true, if_false] at accepted
      refine ⟨rfl, ?_⟩
      cases validated : validateType recur t v q args ctx with
      | error err => simp [validated] at accepted
      | ok verdict =>
          cases verdict with
          | success mvv => simpa [validated] using accepted
          | failure mm => simp [validated] at accepted

theorem validateType_any (q : Qualifier) (args : Option Args) :
    validateType recur .any v q args ctx = .ok (.success v) := by
  simp [validateType, validatePredicate, TypeName.holds]

theorem matchValidator_success {ts : Typeset} {name : String}
    (accepted : matchValidator e recur v ts name ctx = .ok (.success m)) : m = v := by
  unfold matchValidator at accepted
  simp only at accepted
  split at accepted
  · cases accepted
  · cases accepted
  · rename_i verdict _ anyChecked
    have anyAccepts : verdict = .success v := by
      simp only [matchType, Typeset.qualifier] at anyChecked
      unfold runValidator at anyChecked
      split at anyChecked
      · cases anyChecked
      · rw [validateType_any] at anyChecked
        cases anyChecked
        rfl
    subst anyAccepts
    split at accepted
    · cases accepted
    · cases accepted
      rfl
    · cases accepted

theorem firstMatch_success {attempt : List Rule → Except TypesetError Verdict} {unit : List Rule}
    {mvv : Value} :
    ∀ {units : List (List Rule)}, firstMatch attempt units = .ok (.ok (unit, mvv)) →
      ∃ pre post, units = pre ++ unit :: post ∧
        (∀ u ∈ pre, ∃ mm, attempt u = .ok (.failure mm)) ∧ attempt unit = .ok (.success mvv)
  | [], found => by cases found
  | first :: rest, found => by
      cases attempted : attempt first with
      | error err => simp [firstMatch, attempted] at found
      | ok verdict =>
          cases verdict with
          | success mvv' =>
              simp only [firstMatch, attempted, Except.ok.injEq, Except.ok.injEq, Prod.mk.injEq] at found
              obtain ⟨rfl, rfl⟩ := found
              exact ⟨[], rest, rfl, by simp, attempted⟩
          | failure mm =>
              simp only [firstMatch, attempted] at found
              cases later : firstMatch attempt rest with
              | error err => simp [later, Except.map] at found
              | ok result =>
                  cases result with
                  | error failures => simp [later, Except.map, Except.mapError] at found
                  | ok matched =>
                      simp only [later, Except.map, Except.mapError, Except.ok.injEq] at found
                      subst found
                      obtain ⟨pre, post, rfl, refused, accepted⟩ := firstMatch_success later
                      refine ⟨first :: pre, post, rfl, ?_, accepted⟩
                      intro u member
                      rcases List.mem_cons.mp member with rfl | earlier
                      · exact ⟨mm, attempted⟩
                      · exact refused u earlier

theorem afterMatch_success {ts matched : Typeset} {q : Qualifier} {mvv : Value}
    (accepted : afterMatch e v ts ctx q matched mvv = .ok (.success m)) : m = mvv := by
  unfold afterMatch at accepted
  split at accepted
  · cases accepted
    rfl
  · split at accepted
    · cases accepted
      rfl
    · cases accepted
    · cases accepted

theorem orderedChoice_success {ts : Typeset} {q : Qualifier} {units : List (List Rule)}
    (accepted : orderedChoice e recur v ts ctx q units = .ok (.success m)) :
    (units.filter (fun unit => !Rule.isValidatorUnit unit) = [] ∧ m = v) ∨
      ∃ pre unit post, units.filter (fun unit => !Rule.isValidatorUnit unit) = pre ++ unit :: post ∧
        (∀ u ∈ pre, ∃ mm, matchType e recur v (.list u) ctx (some q) = .ok (.failure mm)) ∧
        matchType e recur v (.list unit) ctx (some q) = .ok (.success m) := by
  unfold orderedChoice at accepted
  cases chosen : choose e recur v ctx q units with
  | error err => simp [chosen] at accepted
  | ok result =>
      cases result with
      | error failures => simp [chosen] at accepted
      | ok matched =>
          obtain ⟨matched, mvv⟩ := matched
          simp only [chosen] at accepted
          have same := afterMatch_success accepted
          subst same
          by_cases untried : (units.filter fun unit => !Rule.isValidatorUnit unit).isEmpty = true
          · simp only [choose, untried, if_true, Except.ok.injEq, Prod.mk.injEq] at chosen
            exact .inl ⟨List.isEmpty_iff.mp untried, chosen.2.symm⟩
          · simp only [choose, untried, Bool.false_eq_true, if_false] at chosen
            cases found : firstMatch (fun unit => matchType e recur v (.list unit) ctx (some q))
                (units.filter fun unit => !Rule.isValidatorUnit unit) with
            | error err => simp [found, Except.map] at chosen
            | ok result =>
                cases result with
                | error failures => simp [found, Except.map] at chosen
                | ok unitMvv =>
                    obtain ⟨unit, mvv'⟩ := unitMvv
                    simp only [found, Except.map, Except.ok.injEq, Prod.mk.injEq] at chosen
                    obtain ⟨-, rfl⟩ := chosen
                    obtain ⟨pre, post, split, refused, first⟩ := firstMatch_success found
                    exact .inr ⟨pre, unit, post, split, refused, first⟩

end Levels

end Check

namespace Engine

/-- `(t', q, args)` is the alternative of `ts` that accepted `v` first, as the type it is checked
as: a type or a shape is its own alternative under the default qualifier (a shape as `object`
with the shape as `$`); a custom validator standing alone, bare or as the only alternative of a
list, implies `any`; in a list, under the list's qualifier, every alternative before it refused
`v`. -/
def FirstAccepts (e : Engine) (v : Value) (ctx : Context) :
    Typeset → TypeName → Qualifier → Option Args → Prop
  | .type t, t', q, args => t' = t ∧ q = Qualifier.default ∧ args = none
  | .shape props, t', q, args =>
    t' = .object ∧ q = Qualifier.default ∧ args = some [("$", .typeset (.shape props))]
  | .validator _, t', q, args => t' = .any ∧ q = Qualifier.default ∧ args = none
  | .list rules, t', q, args =>
    q = (Typeset.list rules).qualifier ∧
      ((Rule.alternatives rules = [] ∧ t' = .any ∧ args = none) ∨
        ∃ pre unit post, Rule.alternatives rules = pre ++ unit :: post ∧
          (∀ u ∈ pre, ∃ mm, Check.matchType e e.checkIn v (.list u) ctx (some q) =
            .ok (.failure mm)) ∧
          Rule.checkedType unit = (t', args))

variable (e : Engine)

/-- A check that accepts a value gives as its minimum viable value what the validator of the
first accepting alternative built: the value itself when the alternative's qualifier lets it
through or its type holds no children, and otherwise the checked projection of the value
(`Check.Projects`), made of the minimum viable values of the children the validator checked. -/
theorem checkIn_mvv_projection (v : Value) (t : Typeset) (ctx : Context) (m : Value)
    (accepted : e.checkIn v t ctx = .ok (.success m)) :
    ∃ t' q args, e.FirstAccepts v ctx t t' q args ∧
      Check.validateType e.checkIn t' v q args ctx = .ok (.success m) ∧
      Check.Projects e.checkIn t' v q args ctx m := by
  rw [checkIn_unfold] at accepted
  simp only [Check.checkStep] at accepted
  cases valid : ctx.validate with
  | error err => simp [valid] at accepted
  | ok _ =>
      cases verified : t.verify {} with
      | error err => simp [valid, verified] at accepted
      | ok _ =>
          simp only [valid, verified] at accepted
          suffices built : ∃ t' q args, e.FirstAccepts v ctx t t' q args ∧
              Check.validateType e.checkIn t' v q args ctx = .ok (.success m) by
            obtain ⟨t', q, args, first, validated⟩ := built
            exact ⟨t', q, args, first, validated, Check.validateType_projects validated⟩
          cases t with
          | type t =>
              obtain ⟨-, validated⟩ := Check.runValidator_success accepted
              exact ⟨t, _, none, ⟨rfl, rfl, rfl⟩, validated⟩
          | shape props =>
              obtain ⟨-, validated⟩ := Check.runValidator_success accepted
              exact ⟨.object, _, _, ⟨rfl, rfl, rfl⟩, validated⟩
          | validator name =>
              have same := Check.matchValidator_success accepted
              subst same
              exact ⟨.any, _, none, ⟨rfl, rfl, rfl⟩, Check.validateType_any _ _⟩
          | list rules =>
              have wellFormed : Typeset.validate {} (.list rules) = .ok () := by
                cases checked : Typeset.validate {} (.list rules) with
                | error err => simp [Typeset.verify, checked, Except.mapError] at verified
                | ok u => rfl
              simp only at accepted
              rw [Check.matchAlternatives_eq_orderedChoice valid wellFormed none] at accepted
              rcases Check.orderedChoice_success accepted with
                ⟨noAlternative, rfl⟩ | ⟨pre, unit, post, split, refused, first⟩
              · exact ⟨.any, _, none, ⟨rfl, .inl ⟨noAlternative, rfl, rfl⟩⟩,
                  Check.validateType_any _ _⟩
              · have alt : Rule.Alternative {} unit :=
                  Rule.alternative_of_mem_alternatives wellFormed
                    (by rw [Rule.alternatives, split]; simp)
                rw [Check.matchType_alternative alt] at first
                obtain ⟨-, validated⟩ := Check.runValidator_success first
                exact ⟨_, _, _, ⟨rfl, .inr ⟨pre, unit, post, split, refused, rfl⟩⟩, validated⟩

/-- `{"a": 1, "extra": 2}` against the shape `{"a": "finite"}`: the minimum viable value keeps
the declared property only. -/
theorem checkIn_mvv_projection_declaredOnly :
    (standard fun _ _ => .ok true).checkIn (.object none [("a", .number 1), ("extra", .number 2)])
        (.shape [("a", some (.type .finite))])
        (Context.root (.object none [("a", .number 1), ("extra", .number 2)])) =
      .ok (.success (.object none [("a", .number 1)])) ∧
    ∃ t' q args, (standard fun _ _ => .ok true).FirstAccepts
        (.object none [("a", .number 1), ("extra", .number 2)])
        (Context.root (.object none [("a", .number 1), ("extra", .number 2)]))
        (.shape [("a", some (.type .finite))]) t' q args ∧
      Check.validateType (standard fun _ _ => .ok true).checkIn t'
          (.object none [("a", .number 1), ("extra", .number 2)]) q args
          (Context.root (.object none [("a", .number 1), ("extra", .number 2)])) =
        .ok (.success (.object none [("a", .number 1)])) ∧
      Check.Projects (standard fun _ _ => .ok true).checkIn t'
        (.object none [("a", .number 1), ("extra", .number 2)]) q args
        (Context.root (.object none [("a", .number 1), ("extra", .number 2)]))
        (.object none [("a", .number 1)]) :=
  ⟨rfl, checkIn_mvv_projection _ _ _ _ _ rfl⟩

end Engine

end Conformance
