import Conformance.Proofs.Threading
import Conformance.Proofs.Location

/-!
# Exact shapes

An object type whose arguments carry a shape under `$` may be *exact*: its `exact` argument
says so when it is given, and the option `exactShapes` of the check otherwise.  An exact shape
refuses an object with a property it does not declare before it checks any property, and
reports the keys it does not declare as the root cause, in the object's own order.  A property
that the shape ignores (declared with no typeset) counts as declared.

Main statement: `Check.validateType_exactShape`.  At every value a check visits, the option is
the one the check started with (`Check.Visits.options_eq`), so the exactness of a shape nested
at any depth is its own `exact` argument or else the option of the whole check.  When exactness
holds and the object has undeclared keys, every object validator refuses it with an empty path,
the type's fully-qualified typeset as mismatch and the undeclared keys as cause, whatever the
nested checks would say.  When exactness does not hold, or there is no shape, no failure comes
from an undeclared key: a failure is the type's own test, with no cause, or lies under a
property the shape declares.
-/

namespace Conformance

namespace Check

variable {recur : Recur} {t : TypeName} {v : Value} {q : Qualifier} {args : Option Args}
  {ctx : Context}

theorem validateType_objectType (objectType : t.isObjectType = true) :
    validateType recur t v q args ctx = validateObject recur t v q args ctx := by
  cases t <;> simp [TypeName.isObjectType] at objectType <;> rfl

theorem validateObject_inexact_failure {cls : Option String} {props : List (String × Value)}
    (inexact : ∀ shape, args.bind (Args.shape? · "$") = some shape →
      (args.bind (Args.flag? · "exact")).getD ctx.options.exactShapes = false)
    {m : Mismatch} (failed : validateObject recur t (.object cls props) q args ctx = .ok (.failure m)) :
    (m.path = [] ∧ m.cause = none) ∨
      ∃ shape k ts rest, args.bind (Args.shape? · "$") = some shape ∧ (k, some ts) ∈ shape ∧
        m.path = k :: rest := by
  unfold validateObject at failed
  split at failed
  · cases failed
  cases shaped : args.bind (Args.shape? · "$") with
  | none =>
      simp [shaped] at failed
      split at failed
      · split at failed
        · cases failed
        · rename_i m₀ reported
          cases failed
          obtain ⟨ts, fq, -, -, rfl⟩ := mismatchAt_eq_ok.mp reported
          exact .inl ⟨rfl, rfl⟩
      · cases failed
  | some shape =>
      simp [shaped, inexact shape shaped] at failed
      split at failed
      · split at failed
        · cases failed
        · rename_i m₀ reported
          cases failed
          obtain ⟨ts, fq, -, -, rfl⟩ := mismatchAt_eq_ok.mp reported
          exact .inl ⟨rfl, rfl⟩
      · obtain ⟨before, k, ts, after, child, shapeEq, -, -, reportedAt⟩ := checkShape_failure failed
        refine .inr ⟨shape, k, ts, child.path, rfl, ?_, by simp [reportedAt, Mismatch.rewrap]⟩
        simp [shapeEq]

theorem hasArgs_of_isObjectType (objectType : t.isObjectType = true) : t.hasArgs = true := by
  cases t <;> simp [TypeName.isObjectType] at objectType <;> rfl

theorem validateObject_surplus {cls : Option String} {props : List (String × Value)}
    {shape : List (String × Option Typeset)} (notPermitted : q.permits (.object cls props) = false)
    (shaped : args.bind (Args.shape? · "$") = some shape)
    (exactly : (args.bind (Args.flag? · "exact")).getD ctx.options.exactShapes = true)
    (surplus : (props.map Prod.fst).filter (fun k => !shape.any (·.1 == k)) ≠ [])
    {m : Mismatch} (reported : mismatchAt (.object cls props) t q args [] = .ok m) :
    validateObject recur t (.object cls props) q args ctx =
      .ok (.failure { m with cause := some (.unexpectedProperties
        ((props.map Prod.fst).filter fun k => !shape.any (·.1 == k))) }) := by
  have found : ((props.map Prod.fst).filter fun k => !shape.any (·.1 == k)).isEmpty = false :=
    List.isEmpty_eq_false_iff.mpr surplus
  simp [validateObject, notPermitted, shaped, exactly, found, reported]

/-- Exact shapes, at any value a check visits.  Exactness is the shape's `exact` argument, or
else the option the check started with.  When it holds and the object has keys the shape does
not declare, an object validator refuses the object with an empty path, the type's
fully-qualified typeset as mismatch and the undeclared keys, in the object's order, as cause,
whatever its nested checks are.  When it does not hold, or there is no shape, a failure is the
type's own, with an empty path and no cause, or lies under a property the shape declares. -/
theorem validateType_exactShape {t : TypeName} (objectType : t.isObjectType = true)
    (q : Qualifier) (args : Option Args) {v₀ : Value} {ctx₀ ctx : Context} {cls : Option String}
    {props : List (String × Value)} (visited : Visits v₀ ctx₀ (.object cls props) ctx)
    (notPermitted : q.permits (.object cls props) = false) :
    (∀ shape, args.bind (Args.shape? · "$") = some shape →
      (args.bind (Args.flag? · "exact")).getD ctx₀.options.exactShapes = true →
      (props.map Prod.fst).filter (fun k => !shape.any (·.1 == k)) ≠ [] →
      ∃ ts fq, typesetOf t (some q) args false = .ok ts ∧ typesetOf t (some q) args true = .ok fq ∧
        ∀ recur, validateType recur t (.object cls props) q args ctx =
          .ok (.failure ⟨.object cls props, ts, [], fq, some (.unexpectedProperties
            ((props.map Prod.fst).filter fun k => !shape.any (·.1 == k)))⟩)) ∧
    ((∀ shape, args.bind (Args.shape? · "$") = some shape →
        (args.bind (Args.flag? · "exact")).getD ctx₀.options.exactShapes = false) →
      ∀ recur m, validateType recur t (.object cls props) q args ctx = .ok (.failure m) →
        (m.path = [] ∧ m.cause = none) ∨
          ∃ shape k ts rest, args.bind (Args.shape? · "$") = some shape ∧ (k, some ts) ∈ shape ∧
            m.path = k :: rest) := by
  have options := visited.options_eq
  refine ⟨fun shape shaped exactly surplus => ?surplus, fun inexact recur m failed => ?inexact⟩
  case surplus =>
    have takes : ∀ a, args = some a → t.hasArgs = true :=
      fun _ _ => hasArgs_of_isObjectType objectType
    obtain ⟨ts, written⟩ := typesetOf_ok_of_takes takes (some q) false
    obtain ⟨fq, full⟩ := typesetOf_ok_of_takes takes (some q) true
    have reported : mismatchAt (.object cls props) t q args [] =
        .ok ⟨.object cls props, ts, [], fq, none⟩ :=
      mismatchAt_eq_ok.mpr ⟨ts, fq, written, full, rfl⟩
    refine ⟨ts, fq, written, full, fun recur => ?_⟩
    rw [validateType_objectType objectType,
      validateObject_surplus notPermitted shaped (by rw [options]; exact exactly) surplus reported]
  case inexact =>
    rw [validateType_objectType objectType] at failed
    exact validateObject_inexact_failure
      (fun shape shaped => by rw [options]; exact inexact shape shaped) failed

/-- `{a: 1, z: 2}` against `["object", {"$": {"a": "finite"}, "exact": true}]`: the key `z` is
not declared, so the object is refused with `z` as cause before `a` is checked. -/
theorem validateType_exactShape_surplusKey :
    Qualifier.required.permits (.object none [("a", .number 1), ("z", .number 2)]) = false ∧
      ∀ recur, validateType recur .object (.object none [("a", .number 1), ("z", .number 2)])
          .required (some [("$", .typeset (.shape [("a", some (.type .finite))])),
            ("exact", .data (.bool true))])
          (Context.root (.object none [("a", .number 1), ("z", .number 2)])) =
        .ok (.failure ⟨.object none [("a", .number 1), ("z", .number 2)],
          .list [.form (.type .object), .args [("$", .typeset (.shape [("a", some (.type .finite))])),
            ("exact", .data (.bool true))]], [],
          .list [.qualifier .required, .form (.type .object),
            .args [("$", .typeset (.shape [("a", some (.type .finite))])),
              ("exact", .data (.bool true))]],
          some (.unexpectedProperties ["z"])⟩) := by
  refine ⟨rfl, fun recur => ?_⟩
  obtain ⟨ts, fq, written, full, refused⟩ := (validateType_exactShape (t := .object) rfl .required
    (some [("$", .typeset (.shape [("a", some (.type .finite))])), ("exact", .data (.bool true))])
    (Visits.start : Visits (.object none [("a", .number 1), ("z", .number 2)])
      (Context.root (.object none [("a", .number 1), ("z", .number 2)])) _ _) rfl).1 _ rfl rfl
    (by decide)
  rw [refused recur]
  cases written
  cases full
  rfl

end Check

end Conformance
