import Conformance.Typeset.Basic
import Conformance.Value.Print

/-!
# Verdicts

A check ends in a verdict: the value conforms, with its minimum viable value (the part
of it that the typeset describes), or it does not, with a `Mismatch` that names the
value and typeset at the level reported, the path from there to the failure, the
fully-qualified typeset that failed, and the root cause when a custom validator or an
exact shape gave one.
-/

namespace Conformance

/-- Why a custom validator or an exact shape refused a value. -/
inductive Failure where
  /-- The custom validator answered no. -/
  | validatorRejected
  /-- The custom validator failed with this message. -/
  | validator (message : String)
  /-- An exact shape found properties it does not declare. -/
  | unexpectedProperties (props : List String)

namespace Failure

/-- The text of a root cause. -/
def message : Failure → String
  | .validatorRejected => "Verification failed by the custom validator"
  | .validator m => m
  | .unexpectedProperties ps =>
    "Found unexpected properties in value: '" ++ "', '".intercalate ps ++ "'"

/-- The stable name of a root cause. -/
def code : Failure → String
  | .validatorRejected => "ValidatorRejected"
  | .validator _ => "Validator"
  | .unexpectedProperties _ => "UnexpectedProperties"

end Failure

/-- A value that does not conform to its typeset. -/
structure Mismatch where
  /-- The value at the level reported. -/
  value : Value
  /-- The typeset at the level reported. -/
  typeset : Typeset
  /-- Steps from that value down to the failure. -/
  path : List String
  /-- The fully-qualified typeset that failed. -/
  mismatch : Typeset
  cause : Option Failure := none

namespace Mismatch

/-- The one-line report of a mismatch. -/
def message (m : Mismatch) : String :=
  "Verification failed: value=" ++ m.value.print ++ ", path=\"/" ++ "/".intercalate m.path ++
    "\", mismatch=" ++ m.mismatch.print

/-- The same failure reported one level up: at `value` and `typeset`, with `prefix`
in front of the path. -/
def rewrap (m : Mismatch) (value : Value) (typeset : Typeset) (pre : List String) : Mismatch :=
  { m with value, typeset, path := pre ++ m.path }

end Mismatch

/-- The outcome of a check. -/
inductive Verdict where
  /-- The value conforms; its minimum viable value. -/
  | success (mvv : Value)
  | failure (m : Mismatch)

namespace Verdict

/-- Whether the value conforms. -/
def isValid : Verdict → Bool
  | .success _ => true
  | .failure _ => false

end Verdict

end Conformance
