import Conformance.Context
import Conformance.Verdict
import Conformance.Typeset.Normal
import Conformance.Pattern.Match
import Conformance.Text.Units

/-!
# The engine and what its validators share

An engine knows which types have a validator and how to run custom validators by
name.  A type's validator looks at a value under a qualifier and optional arguments; it
checks nested values through a `Recur` function that the engine hands it, so that
every nested check goes through the engine again.

The helpers here build the reports every validator gives: a mismatch at the type's own
typeset (written shortest and fully qualified), the failure of a nested value reported
one level up with a path step, and the path steps for keys.
-/

namespace Conformance

/-- What a custom validator sees: the value, the fully-qualified alternative that
matched it, the typeset the validator belongs to, and the context. -/
structure Invocation where
  value : Value
  matched : Typeset
  typeset : Typeset
  context : Context

/-- Custom validators by name: `ok true` passes, `ok false` rejects, and an error
rejects with its message as the root cause. -/
abbrev CustomChecks := String → Invocation → Except String Bool

/-- A check engine: the types that have a validator, and the custom validators. -/
structure Engine where
  types : List TypeName
  custom : CustomChecks

/-- The check of a nested value against a typeset in a context. -/
abbrev Recur := Value → Typeset → Context → Except TypesetError Verdict

namespace Engine

/-- An engine without validators. -/
def empty (custom : CustomChecks) : Engine := ⟨[], custom⟩

/-- An engine with the standard validator of every type. -/
def standard (custom : CustomChecks) : Engine := ⟨TypeName.all, custom⟩

/-- Whether the type has a validator. -/
def has (e : Engine) (t : TypeName) : Bool := e.types.contains t

/-- Registers the standard validator of a type; says whether one was replaced. -/
def register (e : Engine) (t : TypeName) : Engine × Bool :=
  if e.has t then (e, true) else ({ e with types := e.types ++ [t] }, false)

/-- The types with a validator, in registry order. -/
def registeredTypes (e : Engine) : List TypeName :=
  TypeName.all.filter e.has

end Engine

namespace Check

/-- The report that `v` fails type `t` under `q` and `args`, with `path` below it. -/
def mismatchAt (v : Value) (t : TypeName) (q : Qualifier) (args : Option Args)
    (path : List String) : Except TypesetError Mismatch := do
  let ts ← typesetOf t (some q) args false
  let fq ← typesetOf t (some q) args true
  pure { value := v, typeset := ts, path, mismatch := fq }

/-- The verdict that `v` fails type `t`. -/
def mismatch (v : Value) (t : TypeName) (q : Qualifier) (args : Option Args) :
    Except TypesetError Verdict :=
  (mismatchAt v t q args []).map .failure

/-- The failure of a nested value, reported at `v` with the step `segment`. -/
def childFailure (v : Value) (t : TypeName) (q : Qualifier) (args : Option Args) (segment : String)
    (child : Mismatch) : Except TypesetError Verdict :=
  (typesetOf t (some q) args false).map fun ts => .failure (child.rewrap v ts [segment])

/-- The path step for a key: `label=` and the key as diagnostics write it. -/
def keySegment (label : String) (key : Value) : String :=
  label ++ "=" ++ key.print

/-- Argument `key` when it holds a typeset that passes the shallow grammar check. -/
def typesetArg (args : Args) (key : String) : Option Typeset :=
  (Args.typeset? args key).filter (Typeset.isWellFormed {})

/-- A length within `min` and `max`; `max` counts only when it is not below `min`. -/
def withinBounds (len : Float) (min max : Option Float) : Bool :=
  if min.any (fun m => len < m) then false
  else
    match max with
    | some mx => if min.all (fun m => mx ≥ m) then len ≤ mx else true
    | none => true

/-- The flags a pattern argument may carry: `i`, `m`, `s`, `y` (anchored at the start),
and `u` and `g`, which change nothing. -/
def patternFlagsValid (flags : String) : Bool :=
  flags.toList.all fun c => c = 'i' || c = 'm' || c = 's' || c = 'y' || c = 'u' || c = 'g'

/-- Compiles a pattern argument with its flags; flags are checked first. -/
def compilePattern (pattern : String) (flags : Option String) :
    Except TypesetError Pattern.Compiled :=
  let fl := flags.getD ""
  if !patternFlagsValid fl then .error (.invalidPatternFlags fl)
  else
    let has := fun c => fl.toList.contains c
    let f : Pattern.Flags := { caseless := has 'i', multiLine := has 'm', dotAll := has 's' }
    let src := if has 'y' then "\\A(?:" ++ pattern ++ ")" else pattern
    match Pattern.compile f src with
    | .ok c => .ok c
    | .error _ => .error (.invalidPattern pattern)

end Check

end Conformance
