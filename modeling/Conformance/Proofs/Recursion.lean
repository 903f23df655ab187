import Conformance.Check.Run

/-!
# The nested check as a fixed point

One level of a check (`Check.checkStep`) hands its validators the check of nested values, and
they call it on the children of the value and nothing else: the elements of an array under
their index, the properties a shape declares under their name (an absent one as `undefined`),
the properties of a `hashMap` under their name (its deep retry on the same property, in the
same context), the keys of a map with no key and its values under their key, and the elements
of a set with no key.  `Check.ChildAt` lists them with the key each context records.  Every
child lies below its container (`Check.ChildAt.depth_lt`): `Value.depth` falls from a container
to its members, and an object-like value that is not a container has depth `1`, above the
`undefined` its shape checks for an absent property.

On this rests a simulation of one level by another.  An answer follows another when it is the
same, or an early stop with an error that is allowed (`Check.Follows`).  One level of a check
under one engine follows one level under another when every validator of the first engine is
one of the second, a validator the first lacks may stop it, the custom validators answer alike
for the value and context at hand, and the checks of the children follow each other
(`Check.checkStep_follows`).  With no stop allowed this says that one level reads the check of
nested values only at the children of its value (`Check.checkStep_eq_of_children`), hence only
below it (`Check.checkStep_congr`).

A check runs the check of nested values with a fuel of one level less than the value it started
from.  So the fuel only bounds the recursion and never decides the answer: a check with more
fuel than the value's depth answers the same as one with exactly enough.  Consequently
`Engine.checkIn` is the fixed point of one level of checking: `Engine.checkIn_unfold` states
`e.checkIn v ts ctx = checkStep e e.checkIn v ts ctx`, and later proofs argue by strong
induction on the depth of the value with this equation and never look at the fuel.  The same
holds for the entry points that check one list: their nested checks are `Engine.checkIn` too.
-/

namespace Conformance

namespace Value

theorem depth_le_itemsDepth {x : Value} {items : List Value} (member : x ∈ items) :
    x.depth ≤ itemsDepth items := by
  induction items with
  | nil => cases member
  | cons y rest ih =>
      simp only [itemsDepth]
      rcases List.mem_cons.mp member with rfl | inRest
      · exact Nat.le_max_left _ _
      · exact Nat.le_trans (ih inRest) (Nat.le_max_right _ _)

theorem depth_le_propsDepth {key : String} {x : Value} {props : List (String × Value)}
    (member : (key, x) ∈ props) : x.depth ≤ propsDepth props := by
  induction props with
  | nil => cases member
  | cons p rest ih =>
      obtain ⟨k, y⟩ := p
      simp only [propsDepth]
      rcases List.mem_cons.mp member with same | inRest
      · cases same
        exact Nat.le_max_left _ _
      · exact Nat.le_trans (ih inRest) (Nat.le_max_right _ _)

theorem depth_le_entriesDepth {key x : Value} {entries : List (Value × Value)}
    (member : (key, x) ∈ entries) :
    key.depth ≤ entriesDepth entries ∧ x.depth ≤ entriesDepth entries := by
  induction entries with
  | nil => cases member
  | cons p rest ih =>
      obtain ⟨k, y⟩ := p
      simp only [entriesDepth]
      rcases List.mem_cons.mp member with same | inRest
      · cases same
        omega
      · have below := ih inRest
        omega

theorem mem_of_prop?_eq_some {props : List (String × Value)} {key : String} {x : Value}
    (found : prop? props key = some x) : ∃ k, (k, x) ∈ props := by
  simp only [prop?, Option.map_eq_some_iff] at found
  obtain ⟨⟨k, y⟩, findEq, rfl⟩ := found
  exact ⟨k, List.mem_of_find?_eq_some findEq⟩

theorem depth_pos_of_isObjectLike {v : Value} (objectLike : v.isObjectLike = true) :
    0 < v.depth := by
  cases v <;> simp_all [isObjectLike, depth]

theorem depth_lt_of_mem_array {x : Value} {items : List Value} (member : x ∈ items) :
    x.depth < (Value.array items).depth := by
  have below := depth_le_itemsDepth member
  simp only [depth]
  omega

theorem depth_lt_of_mem_set {x : Value} {items : List Value} (member : x ∈ items) :
    x.depth < (Value.set items).depth := by
  have below := depth_le_itemsDepth member
  simp only [depth]
  omega

theorem depth_lt_of_mem_object {cls : Option String} {props : List (String × Value)}
    {key : String} {x : Value} (member : (key, x) ∈ props) :
    x.depth < (Value.object cls props).depth := by
  have below := depth_le_propsDepth member
  simp only [depth]
  omega

theorem depth_lt_of_mem_map {entries : List (Value × Value)} {key x : Value}
    (member : (key, x) ∈ entries) :
    key.depth < (Value.map entries).depth ∧ x.depth < (Value.map entries).depth := by
  have below := depth_le_entriesDepth member
  simp only [depth]
  omega

end Value

namespace Check

/-- Two checks of nested values agree on the value `x`. -/
def AgreeOn (x : Value) (r₁ r₂ : Recur) : Prop :=
  ∀ ts ctx, r₁ x ts ctx = r₂ x ts ctx

/-- Two checks of nested values agree on every value shallower than `v`. -/
def AgreeBelow (v : Value) (r₁ r₂ : Recur) : Prop :=
  ∀ x, x.depth < v.depth → AgreeOn x r₁ r₂

theorem depth_shapeChild_lt {v : Value} (objectLike : v.isObjectLike = true) (key : String) :
    ((Value.prop? (propsOf v) key).getD .undefined).depth < v.depth := by
  cases found : Value.prop? (propsOf v) key with
  | none =>
      simpa [Value.depth] using Value.depth_pos_of_isObjectLike objectLike
  | some x =>
      obtain ⟨k, member⟩ := Value.mem_of_prop?_eq_some found
      cases v with
      | object cls props => exact Value.depth_lt_of_mem_object member
      | _ => simp [propsOf] at member

theorem isObjectLike_of_isInstance {t : TypeName} {v : Value} {args : Option Args}
    (objectType : t.isObjectType = true) (inst : isInstance t v args = true) :
    v.isObjectLike = true := by
  have holds : t.holds v = true := by
    simp only [isInstance, Bool.and_eq_true] at inst
    exact inst.1
  cases t <;> simp [TypeName.isObjectType] at objectType <;>
    cases v <;> simp_all [TypeName.holds, Value.isObjectLike]

/-- One step of a loop over nested values: on with the nested value's minimum viable value, or
its failure reported. -/
def childThen (r : Except TypesetError Verdict) (next : Value → Except TypesetError Verdict)
    (fail : Mismatch → Except TypesetError Verdict) : Except TypesetError Verdict :=
  match r with
  | .error e => .error e
  | .ok (.success mvv) => next mvv
  | .ok (.failure m) => fail m

/-- One step of a loop over entries whose key and value may each have a typeset: on with the
checked one, or its failure reported. -/
def optionalThen (r : Except TypesetError (Except Mismatch Value))
    (next : Value → Except TypesetError Verdict) (fail : Mismatch → Except TypesetError Verdict) :
    Except TypesetError Verdict :=
  match r with
  | .error e => .error e
  | .ok (.error m) => fail m
  | .ok (.ok mvv) => next mvv

/-- The nested values one level of a check of `v` may check, each with the key its context
records: an element of an array under its index; the value a shape reads for a property of an
object-like value under the property's name, `undefined` when absent; a property of an object
under its name; a key of a map with no key, and the value under it with its key; an element of a
set with no key. -/
inductive ChildAt : Value → Option ParentKey → Value → Prop
  | element {items : List Value} {i : Nat} {x : Value} (found : items[i]? = some x) :
      ChildAt (.array items) (some (.index i)) x
  | shapeProperty {v : Value} (objectLike : v.isObjectLike = true) (k : String) :
      ChildAt v (some (.prop k)) ((Value.prop? (propsOf v) k).getD .undefined)
  | property {cls : Option String} {props : List (String × Value)} {k : String} {x : Value}
      (member : (k, x) ∈ props) : ChildAt (.object cls props) (some (.prop k)) x
  | mapKey {entries : List (Value × Value)} {key x : Value} (member : (key, x) ∈ entries) :
      ChildAt (.map entries) none key
  | mapValue {entries : List (Value × Value)} {key x : Value} (member : (key, x) ∈ entries) :
      ChildAt (.map entries) (some (.key key)) x
  | setElement {items : List Value} {x : Value} (member : x ∈ items) :
      ChildAt (.set items) none x

namespace ChildAt

variable {v x : Value} {k : Option ParentKey}

/-- A child lies strictly below its container; for an absent property this is `undefined`
below an object-like value. -/
theorem depth_lt (child : ChildAt v k x) : x.depth < v.depth := by
  cases child with
  | element found => exact Value.depth_lt_of_mem_array (List.mem_of_getElem? found)
  | shapeProperty objectLike k => exact depth_shapeChild_lt objectLike k
  | property member => exact Value.depth_lt_of_mem_object member
  | mapKey member => exact (Value.depth_lt_of_mem_map member).1
  | mapValue member => exact (Value.depth_lt_of_mem_map member).2
  | setElement member => exact Value.depth_lt_of_mem_set member

theorem isObjectLike (child : ChildAt v k x) : v.isObjectLike = true := by
  cases child with
  | shapeProperty objectLike k => exact objectLike
  | _ => rfl

end ChildAt

/-- The answer `r₁` is `r₂`, or an early stop with an error that `stops` allows. -/
def Follows {α : Type} (stops : TypesetError → Prop) (r₁ r₂ : Except TypesetError α) : Prop :=
  r₁ = r₂ ∨ ∃ err, stops err ∧ r₁ = .error err

namespace Follows

variable {α : Type} {stops : TypesetError → Prop}

theorem refl (r : Except TypesetError α) : Follows stops r r :=
  .inl rfl

theorem stop {err : TypesetError} (allowed : stops err) (r : Except TypesetError α) :
    Follows stops (.error err) r :=
  .inr ⟨err, allowed, rfl⟩

theorem ite {c : Prop} [Decidable c] {a₁ a₂ b₁ b₂ : Except TypesetError α}
    (pos : Follows stops a₁ a₂) (neg : Follows stops b₁ b₂) :
    Follows stops (if c then a₁ else b₁) (if c then a₂ else b₂) := by
  split
  · exact pos
  · exact neg

theorem eq {r₁ r₂ : Except TypesetError α} (never : ∀ err, ¬stops err)
    (follows : Follows stops r₁ r₂) : r₁ = r₂ := by
  rcases follows with same | ⟨err, allowed, _⟩
  · exact same
  · exact absurd allowed (never err)

end Follows

/-- The checks of nested values `r₁` and `r₂` follow each other on the children of `v`, each in
the context derived for it from `ctx`. -/
def RecurFollows (stops : TypesetError → Prop) (r₁ r₂ : Recur) (v : Value) (ctx : Context) :
    Prop :=
  ∀ k x, ChildAt v k x → ∀ ts, Follows stops (r₁ x ts (ctx.derive v k)) (r₂ x ts (ctx.derive v k))

/-- What one level of a check of `v` in `ctx` under `e₁` needs to follow one under `e₂`: every
validator `e₁` has, `e₂` has, a validator only `e₂` has may stop the first check, and the custom
validators answer alike for `v` in `ctx`. -/
structure EnginesFollow (stops : TypesetError → Prop) (e₁ e₂ : Engine) (v : Value) (ctx : Context) :
    Prop where
  has : ∀ t, e₁.has t = e₂.has t ∨ (e₁.has t = false ∧ stops (.missingValidator t))
  custom : ∀ name matched ts, e₁.custom name ⟨v, matched, ts, ctx⟩ = e₂.custom name ⟨v, matched, ts, ctx⟩

section Loops

variable {stops : TypesetError → Prop} {r₁ r₂ : Recur}

theorem childThen_follows {c₁ c₂ : Except TypesetError Verdict}
    {next₁ next₂ : Value → Except TypesetError Verdict} {fail : Mismatch → Except TypesetError Verdict}
    (child : Follows stops c₁ c₂) (rest : ∀ mvv, Follows stops (next₁ mvv) (next₂ mvv)) :
    Follows stops (childThen c₁ next₁ fail) (childThen c₂ next₂ fail) := by
  rcases child with rfl | ⟨err, allowed, rfl⟩
  · cases c₁ with
    | error err => exact .refl _
    | ok verdict =>
        cases verdict with
        | success mvv => exact rest mvv
        | failure m => exact .refl _
  · exact .stop allowed _

theorem optionalThen_follows {c₁ c₂ : Except TypesetError (Except Mismatch Value)}
    {next₁ next₂ : Value → Except TypesetError Verdict} {fail : Mismatch → Except TypesetError Verdict}
    (child : Follows stops c₁ c₂) (rest : ∀ mvv, Follows stops (next₁ mvv) (next₂ mvv)) :
    Follows stops (optionalThen c₁ next₁ fail) (optionalThen c₂ next₂ fail) := by
  rcases child with rfl | ⟨err, allowed, rfl⟩
  · cases c₁ with
    | error err => exact .refl _
    | ok checked =>
        cases checked with
        | ok mvv => exact rest mvv
        | error m => exact .refl _
  · exact .stop allowed _

theorem checkElements_follows {arr : Value} {ts : Typeset} {ctx : Context} {t : TypeName}
    {q : Qualifier} {args : Option Args} {items : List Value} :
    ∀ {i : Nat} {acc : List Value},
      (∀ j x, items[j]? = some x →
        Follows stops (r₁ x ts (ctx.derive arr (some (.index (i + j)))))
          (r₂ x ts (ctx.derive arr (some (.index (i + j)))))) →
      Follows stops (checkElements r₁ arr ts ctx t q args i acc items)
        (checkElements r₂ arr ts ctx t q args i acc items) := by
  induction items with
  | nil => intro i acc _; exact .refl _
  | cons x rest ih =>
      intro i acc children
      have head : Follows stops (r₁ x ts (ctx.derive arr (some (.index i))))
          (r₂ x ts (ctx.derive arr (some (.index i)))) := children 0 x rfl
      have later : ∀ j y, rest[j]? = some y →
          Follows stops (r₁ y ts (ctx.derive arr (some (.index (i + 1 + j)))))
            (r₂ y ts (ctx.derive arr (some (.index (i + 1 + j))))) := by
        intro j y found
        rw [Nat.add_assoc, Nat.add_comm 1 j]
        exact children (j + 1) y found
      simp only [checkElements]
      exact childThen_follows head fun _ => ih later

theorem checkShape_follows {v : Value} {shape : List (String × Option Typeset)} {ctx : Context}
    (children : ∀ k ts,
      Follows stops (r₁ ((Value.prop? (propsOf v) k).getD .undefined) ts (ctx.derive v (some (.prop k))))
        (r₂ ((Value.prop? (propsOf v) k).getD .undefined) ts (ctx.derive v (some (.prop k))))) :
    ∀ {acc : List (String × Value)} {props : List (String × Option Typeset)},
      Follows stops (checkShape r₁ v shape ctx acc props) (checkShape r₂ v shape ctx acc props)
  | _, [] => .refl _
  | acc, (k, none) :: rest => by
      simp only [checkShape]
      exact checkShape_follows children
  | acc, (k, some ts) :: rest => by
      simp only [checkShape]
      exact childThen_follows (children k ts) fun _ => checkShape_follows children

theorem checkMembers_follows {v : Value} {q : Qualifier} {args : Args} {ts : Typeset}
    {ctx : Context} {items : List Value}
    (children : ∀ x ∈ items, Follows stops (r₁ x ts (ctx.derive v none)) (r₂ x ts (ctx.derive v none))) :
    ∀ {acc : List Value},
      Follows stops (checkMembers r₁ v q args ts ctx acc items)
        (checkMembers r₂ v q args ts ctx acc items) := by
  induction items with
  | nil => intro acc; exact .refl _
  | cons x rest ih =>
      intro acc
      simp only [checkMembers]
      exact childThen_follows (children x List.mem_cons_self)
        fun _ => ih fun y member => children y (List.mem_cons_of_mem x member)

theorem checkDictionaryValue_follows {q : Qualifier} {args : Args} {ts : Typeset} {child : Value}
    {cctx : Context} (first : Follows stops (r₁ child ts cctx) (r₂ child ts cctx))
    (retry : Follows stops (r₁ child (.list [.qualifier q, .form (.type .hashMap), .args args]) cctx)
      (r₂ child (.list [.qualifier q, .form (.type .hashMap), .args args]) cctx)) :
    Follows stops (checkDictionaryValue r₁ q args ts child cctx)
      (checkDictionaryValue r₂ q args ts child cctx) := by
  rcases first with same | ⟨err, allowed, raised⟩
  · unfold checkDictionaryValue
    rw [same]
    split
    · exact .refl _
    · split
      · exact retry
      · exact .refl _
    · exact .refl _
  · simp only [checkDictionaryValue, raised]
    exact .stop allowed _

theorem checkDictionary_follows {v : Value} {q : Qualifier} {args : Args}
    {keyExp : Option Pattern.Compiled} {valuesTs : Option Typeset} {ctx : Context}
    {props : List (String × Value)}
    (children : ∀ k x, (k, x) ∈ props → ∀ ts,
      Follows stops (r₁ x ts (ctx.derive v (some (.prop k)))) (r₂ x ts (ctx.derive v (some (.prop k))))) :
    ∀ {acc : List (String × Value)},
      Follows stops (checkDictionary r₁ v q args keyExp valuesTs ctx acc props)
        (checkDictionary r₂ v q args keyExp valuesTs ctx acc props) := by
  induction props with
  | nil => intro acc; exact .refl _
  | cons p rest ih =>
      intro acc
      obtain ⟨k, child⟩ := p
      have restChildren := fun k' x member => children k' x (List.mem_cons_of_mem _ member)
      have here := children k child List.mem_cons_self
      simp only [checkDictionary]
      split
      · exact .refl _
      · cases valuesTs with
        | none => exact ih restChildren
        | some ts =>
            exact childThen_follows (checkDictionaryValue_follows (here ts) (here _))
              fun _ => ih restChildren

theorem checkOptional_follows {ts? : Option Typeset} {x : Value} {cctx : Context}
    (child : ∀ ts, ts? = some ts → Follows stops (r₁ x ts cctx) (r₂ x ts cctx)) :
    Follows stops (checkOptional r₁ ts? x cctx) (checkOptional r₂ ts? x cctx) := by
  cases ts? with
  | none => exact .refl _
  | some ts =>
      rcases child ts rfl with same | ⟨err, allowed, raised⟩
      · simp only [checkOptional, same]
        exact .refl _
      · simp only [checkOptional, raised]
        exact .stop allowed _

theorem checkEntries_follows {v : Value} {q : Qualifier} {args : Args}
    {keysTs : Option Typeset} {keyExp : Option Pattern.Compiled} {valuesTs : Option Typeset}
    {ctx : Context} {entries : List (Value × Value)}
    (children : ∀ key x, (key, x) ∈ entries →
      (∀ ts, Follows stops (r₁ key ts (ctx.derive v none)) (r₂ key ts (ctx.derive v none))) ∧
        ∀ ts, Follows stops (r₁ x ts (ctx.derive v (some (.key key))))
          (r₂ x ts (ctx.derive v (some (.key key))))) :
    ∀ {acc : List (Value × Value)},
      Follows stops (checkEntries r₁ v q args keysTs keyExp valuesTs ctx acc entries)
        (checkEntries r₂ v q args keysTs keyExp valuesTs ctx acc entries) := by
  induction entries with
  | nil => intro acc; exact .refl _
  | cons p rest ih =>
      intro acc
      obtain ⟨key, child⟩ := p
      have restChildren := fun key' x member => children key' x (List.mem_cons_of_mem _ member)
      obtain ⟨keyChecks, valueChecks⟩ := children key child List.mem_cons_self
      simp only [checkEntries]
      refine optionalThen_follows (checkOptional_follows fun ts _ => keyChecks ts) fun _ => ?_
      split
      · exact .refl _
      · exact optionalThen_follows (checkOptional_follows fun ts _ => valueChecks ts)
          fun _ => ih restChildren

end Loops

section Validators

variable {stops : TypesetError → Prop} {r₁ r₂ : Recur} {v : Value} {q : Qualifier}
  {args : Option Args} {ctx : Context}

theorem validateArray_follows (children : RecurFollows stops r₁ r₂ v ctx) :
    Follows stops (validateArray r₁ v q args ctx) (validateArray r₂ v q args ctx) := by
  unfold validateArray
  split
  · exact .refl _
  · cases v with
    | array items =>
        cases args with
        | none => exact .refl _
        | some a =>
            simp only
            refine Follows.ite (.refl _) ?_
            cases typesetArg a "$" with
            | none => exact .refl _
            | some ts =>
                exact checkElements_follows fun j x found => by
                  simpa using children _ _ (.element found) ts
    | _ => exact .refl _

theorem validateObject_follows {t : TypeName} (objectType : t.isObjectType = true)
    (children : RecurFollows stops r₁ r₂ v ctx) :
    Follows stops (validateObject r₁ t v q args ctx) (validateObject r₂ t v q args ctx) := by
  by_cases inst : isInstance t v args = true
  · -- only a value of the type reaches its shape, and such a value is object-like
    have objectLike := isObjectLike_of_isInstance objectType inst
    unfold validateObject
    refine Follows.ite (.refl _) ?_
    simp only
    refine Follows.ite (.refl _) ?_
    cases args.bind (Args.shape? · "$") with
    | none => exact .refl _
    | some s => exact checkShape_follows fun k ts => children _ _ (.shapeProperty objectLike k) ts
  · have refused : validateObject r₁ t v q args ctx = validateObject r₂ t v q args ctx := by
      simp [validateObject, inst]
    rw [refused]
    exact .refl _

theorem validateHashMap_follows (children : RecurFollows stops r₁ r₂ v ctx) :
    Follows stops (validateHashMap r₁ v q args ctx) (validateHashMap r₂ v q args ctx) := by
  unfold validateHashMap
  split
  · exact .refl _
  · cases v with
    | object cls props =>
        cases args with
        | none => exact .refl _
        | some a =>
            simp only
            split
            · exact .refl _
            · cases keyPattern a with
              | error err => exact .refl _
              | ok keyExp =>
                  simp only
                  split
                  · exact .refl _
                  · exact checkDictionary_follows fun k x member ts =>
                      children _ _ (.property member) ts
    | _ => exact .refl _

theorem validateMap_follows (children : RecurFollows stops r₁ r₂ v ctx) :
    Follows stops (validateMap r₁ v q args ctx) (validateMap r₂ v q args ctx) := by
  unfold validateMap
  split
  · exact .refl _
  · cases v with
    | map entries =>
        cases args with
        | none => exact .refl _
        | some a =>
            simp only
            split
            · exact .refl _
            · split
              · exact .refl _
              · split
                · exact .refl _
                · exact checkEntries_follows fun key x member =>
                    ⟨children _ _ (.mapKey member), children _ _ (.mapValue member)⟩
    | _ => exact .refl _

theorem validateSet_follows (children : RecurFollows stops r₁ r₂ v ctx) :
    Follows stops (validateSet r₁ v q args ctx) (validateSet r₂ v q args ctx) := by
  unfold validateSet
  split
  · exact .refl _
  · cases v with
    | set items =>
        cases args with
        | none => exact .refl _
        | some a =>
            simp only
            split
            · exact .refl _
            · cases typesetArg a "$values" with
              | none => exact .refl _
              | some ts =>
                  exact checkMembers_follows fun x member => children _ _ (.setElement member) ts
    | _ => exact .refl _

theorem validateType_follows (children : RecurFollows stops r₁ r₂ v ctx) {t : TypeName} :
    Follows stops (validateType r₁ t v q args ctx) (validateType r₂ t v q args ctx) := by
  cases t with
  | array => exact validateArray_follows children
  | anyObject | object | plainObject | classObject => exact validateObject_follows rfl children
  | hashMap => exact validateHashMap_follows children
  | map => exact validateMap_follows children
  | set => exact validateSet_follows children
  | _ => exact .refl _

end Validators

section Levels

variable {stops : TypesetError → Prop} {e₁ e₂ : Engine} {r₁ r₂ : Recur} {v : Value}
  {ctx : Context}

theorem runValidator_follows (engines : EnginesFollow stops e₁ e₂ v ctx)
    (children : RecurFollows stops r₁ r₂ v ctx) {ts : Typeset} {t : TypeName} {q : Qualifier}
    {args : Option Args} :
    Follows stops (runValidator e₁ r₁ v ts t q args ctx) (runValidator e₂ r₂ v ts t q args ctx) := by
  unfold runValidator
  rcases engines.has t with same | ⟨lacks, allowed⟩
  · rw [same]
    split
    · exact .refl _
    · -- a failure is reported at the alternative, which passes an early stop on
      have validated : Follows stops (validateType r₁ t v q args ctx) (validateType r₂ t v q args ctx) :=
        validateType_follows children
      rcases validated with validated | ⟨err, allowed, raised⟩
      · rw [validated]
        exact .refl _
      · rw [raised]
        exact .stop allowed _
  · simp only [lacks, Bool.not_false, if_true]
    exact .stop allowed _

theorem matchType_follows (engines : EnginesFollow stops e₁ e₂ v ctx)
    (children : RecurFollows stops r₁ r₂ v ctx) {ts : Typeset} {q : Option Qualifier} :
    Follows stops (matchType e₁ r₁ v ts ctx q) (matchType e₂ r₂ v ts ctx q) := by
  cases ts with
  | type t => exact runValidator_follows engines children
  | shape props => exact runValidator_follows engines children
  | validator name => exact .refl _
  | list rules =>
      simp only [matchType]
      split
      · exact .refl _
      · split
        · exact runValidator_follows engines children
        · exact runValidator_follows engines children
        · exact .refl _

theorem callCustom_eq (engines : EnginesFollow stops e₁ e₂ v ctx) (name : String)
    (matched ts : Typeset) : callCustom e₁ name v matched ts ctx = callCustom e₂ name v matched ts ctx := by
  simp only [callCustom, engines.custom]

theorem matchValidator_follows (engines : EnginesFollow stops e₁ e₂ v ctx)
    (children : RecurFollows stops r₁ r₂ v ctx) {ts : Typeset} {name : String} :
    Follows stops (matchValidator e₁ r₁ v ts name ctx) (matchValidator e₂ r₂ v ts name ctx) := by
  have anyChecked : Follows stops (matchType e₁ r₁ v (.type .any) ctx none)
      (matchType e₂ r₂ v (.type .any) ctx none) := matchType_follows engines children
  unfold matchValidator
  rcases anyChecked with same | ⟨err, allowed, raised⟩
  · simp only [same, callCustom_eq engines]
    exact .refl _
  · simp only [raised]
    exact .stop allowed _

theorem tryAlternatives_follows (engines : EnginesFollow stops e₁ e₂ v ctx)
    (children : RecurFollows stops r₁ r₂ v ctx) {rules : List Rule} {q : Qualifier}
    {impliesAny : Bool} {fuel : Nat} :
    ∀ {cursor : Nat} {single : Option Bool} {lone : Option Mismatch},
      Follows stops (tryAlternatives e₁ r₁ v rules ctx q impliesAny fuel cursor single lone)
        (tryAlternatives e₂ r₂ v rules ctx q impliesAny fuel cursor single lone) := by
  induction fuel with
  | zero => intro cursor single lone; exact .refl _
  | succ fuel ih =>
      intro cursor single lone
      simp only [tryAlternatives]
      split
      · exact .refl _
      · split
        · exact .refl _
        · -- each alternative is one level of the same check; a failure moves on
          have checked : Follows stops
              (matchType e₁ r₁ v (.list (Rule.nextUnit rules cursor .exclude).1) ctx (some q))
              (matchType e₂ r₂ v (.list (Rule.nextUnit rules cursor .exclude).1) ctx (some q)) :=
            matchType_follows engines children
          rcases checked with same | ⟨err, allowed, raised⟩
          · rw [same]
            split
            · exact .refl _
            · exact .refl _
            · exact ih
          · rw [raised]
            exact .stop allowed _

theorem matchAlternatives_follows (engines : EnginesFollow stops e₁ e₂ v ctx)
    (children : RecurFollows stops r₁ r₂ v ctx) {ts : Typeset} {rules : List Rule}
    {q : Option Qualifier} :
    Follows stops (matchAlternatives e₁ r₁ v ts rules ctx q)
      (matchAlternatives e₂ r₂ v ts rules ctx q) := by
  unfold matchAlternatives
  extract_lets q' impliesAny
  have tried : Follows stops
      (tryAlternatives e₁ r₁ v rules ctx q' impliesAny (rules.length + 1) 0 none none)
      (tryAlternatives e₂ r₂ v rules ctx q' impliesAny (rules.length + 1) 0 none none) :=
    tryAlternatives_follows engines children
  rcases tried with same | ⟨err, allowed, raised⟩
  · simp only [same, callCustom_eq engines]
    exact .refl _
  · simp only [raised]
    exact .stop allowed _

/-- One level of a check under `e₁` follows one under `e₂` when the engines do at the value
and context at hand and the checks of its children follow each other. -/
theorem checkStep_follows (engines : EnginesFollow stops e₁ e₂ v ctx)
    (children : RecurFollows stops r₁ r₂ v ctx) {ts : Typeset} :
    Follows stops (checkStep e₁ r₁ v ts ctx) (checkStep e₂ r₂ v ts ctx) := by
  unfold checkStep
  split
  · exact .refl _
  · split
    · exact .refl _
    · cases ts with
      | type t => exact matchType_follows engines children
      | shape props => exact matchType_follows engines children
      | validator name => exact matchValidator_follows engines children
      | list rules => exact matchAlternatives_follows engines children

theorem EnginesFollow.refl (e : Engine) (v : Value) (ctx : Context) : EnginesFollow stops e e v ctx :=
  ⟨fun _ => .inl rfl, fun _ _ _ => rfl⟩

/-- One level of a check reads the check of nested values only at the children of its value,
each in the context derived for it. -/
theorem checkStep_eq_of_children {e : Engine}
    (agree : ∀ k x, ChildAt v k x → ∀ ts, r₁ x ts (ctx.derive v k) = r₂ x ts (ctx.derive v k))
    {ts : Typeset} : checkStep e r₁ v ts ctx = checkStep e r₂ v ts ctx := by
  have follows : Follows (fun _ => False) (checkStep e r₁ v ts ctx) (checkStep e r₂ v ts ctx) :=
    checkStep_follows (.refl e v ctx) fun k x child ts => .inl (agree k x child ts)
  exact follows.eq fun _ stop => stop

end Levels

theorem recurFollows_of_agreeBelow {stops : TypesetError → Prop} {r₁ r₂ : Recur} {v : Value}
    (agree : AgreeBelow v r₁ r₂) (ctx : Context) : RecurFollows stops r₁ r₂ v ctx :=
  fun _ x child ts => .inl (agree x child.depth_lt ts _)

/-- One level of a check reads the check of nested values only below its value. -/
theorem checkStep_congr {e : Engine} {r₁ r₂ : Recur} {v : Value} (agree : AgreeBelow v r₁ r₂)
    {ts : Typeset} {ctx : Context} : checkStep e r₁ v ts ctx = checkStep e r₂ v ts ctx := by
  have follows : Follows (fun _ => False) (checkStep e r₁ v ts ctx) (checkStep e r₂ v ts ctx) :=
    checkStep_follows (.refl e v ctx) (recurFollows_of_agreeBelow agree ctx)
  exact follows.eq fun _ stop => stop

theorem checkFuel_eq_of_depth_lt (e : Engine) {f g : Nat} {x : Value} (enough : x.depth < f)
    (enough' : x.depth < g) (ts : Typeset) (ctx : Context) :
    checkFuel e f x ts ctx = checkFuel e g x ts ctx := by
  induction f generalizing g x ts ctx with
  | zero => omega
  | succ n ih =>
      cases g with
      | zero => omega
      | succ m =>
          simp only [checkFuel]
          apply checkStep_congr
          intro y below ts ctx
          exact ih (by omega) (by omega) ts ctx

end Check

namespace Engine

variable (e : Engine)

theorem checkFuel_eq_checkIn {f : Nat} {x : Value} (enough : x.depth < f) (ts : Typeset)
    (ctx : Context) : Check.checkFuel e f x ts ctx = e.checkIn x ts ctx :=
  Check.checkFuel_eq_of_depth_lt e enough (Nat.lt_succ_self _) ts ctx

theorem nested_agreeBelow (v : Value) : Check.AgreeBelow v (e.nested v) e.checkIn :=
  fun _ below ts ctx => e.checkFuel_eq_checkIn below ts ctx

/-- `checkIn` is the fixed point of one level of checking. -/
theorem checkIn_unfold (v : Value) (ts : Typeset) (ctx : Context) :
    e.checkIn v ts ctx = Check.checkStep e e.checkIn v ts ctx :=
  Check.checkStep_congr (e.nested_agreeBelow v)

theorem checkWithList_eq_matchAlternatives {v : Value} {rules : List Rule} {ctx : Context}
    (valid : ctx.validate = .ok ()) (wellFormed : (Typeset.list rules).verify {} = .ok ())
    (q : Option Qualifier) :
    e.checkWithList v (.list rules) ctx q =
      Check.matchAlternatives e e.checkIn v (.list rules) rules ctx q := by
  simp only [checkWithList, valid, wellFormed]
  have follows : Check.Follows (fun _ => False)
      (Check.matchAlternatives e (e.nested v) v (.list rules) rules ctx q)
      (Check.matchAlternatives e e.checkIn v (.list rules) rules ctx q) :=
    Check.matchAlternatives_follows (.refl e v ctx) (Check.recurFollows_of_agreeBelow (e.nested_agreeBelow v) ctx)
  exact follows.eq fun _ stop => stop

end Engine

end Conformance
