import Conformance.Error
import Conformance.Value.Basic

/-!
# Check contexts

A check runs in a context: the value the whole check started from, the container the
current value was found in with the key it was found under, and the options of the
check.  A context is consistent when its parent, if any, is object-like, and when it
has a key only together with a parent.
-/

namespace Conformance

/-- Where a value was found in its parent. -/
inductive ParentKey where
  /-- At an index of an array. -/
  | index (i : Nat)
  /-- Under a property of an object. -/
  | prop (name : String)
  /-- Under a key of a map. -/
  | key (k : Value)

/-- Options of a check. -/
structure CheckOptions where
  /-- Shapes refuse properties they do not declare, unless their type says otherwise. -/
  exactShapes : Bool := false
deriving DecidableEq, Repr, Inhabited

/-- The context of one step of a check. -/
structure Context where
  /-- The value the check started from. -/
  start : Value
  /-- The container of the current value. -/
  parent : Option Value := none
  /-- Where the current value was found in its container. -/
  parentKey : Option ParentKey := none
  /-- How strictly shapes are read. -/
  options : CheckOptions := {}

namespace Context

/-- The context of a check of `v` itself. -/
def root (v : Value) (options : CheckOptions := {}) : Context :=
  { start := v, options }

/-- The context of a value found in `parent`. -/
def derive (c : Context) (parent : Value) (key : Option ParentKey) : Context :=
  { c with parent := some parent, parentKey := key }

/-- Refuses an inconsistent context. -/
def validate (c : Context) : Except TypesetError Unit :=
  match c.parent, c.parentKey with
  | some p, _ =>
    if p.isObjectLike then .ok () else .error (.invalidContext (.parentNotObjectLike p.kind))
  | none, some _ => .error (.invalidContext .keyWithoutParent)
  | none, none => .ok ()

end Context

end Conformance
