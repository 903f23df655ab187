import Conformance.Typeset.Classify

/-!
# Lint: arguments that no type reads

The positional rule of lists reads an object after a type as that type's arguments,
even when it was meant as a shape.  The lint walks a typeset and warns about every
argument that the type before it does not read, and says so more pointedly when the
argument's value would itself read as a typeset.  Each warning carries its location:
property names, `index=i` for list elements and `args.key` for nested typesets.
-/

namespace Conformance

/-- A warning of the lint, with where it was found. -/
structure LintWarning where
  location : List String
  message : String
deriving Repr

namespace LintWarning

/-- The warning as one line: its location joined by `/` (or `(root)`), then the
message. -/
def display (w : LintWarning) : String :=
  match w.location with
  | [] => "(root): " ++ w.message
  | loc => "/".intercalate loc ++ ": " ++ w.message

end LintWarning

/-- The warning for argument `key` that type `t` does not read. -/
def unreadArgMessage (t : TypeName) (key : String) (looksLikeTypeset : Bool) : String :=
  if looksLikeTypeset then
    "argument \"" ++ key ++ "\" of type=\"" ++ t.name ++ "\" looks like a typeset; a shape is " ++
      "only recognized at index 0 or directly after the qualifier, elsewhere it is read as " ++
      "type args"
  else "argument \"" ++ key ++ "\" is not read by type=\"" ++ t.name ++ "\""

namespace Typeset

mutual

/-- The warnings of a typeset found at `location`. -/
def lintAt (location : List String) : Typeset → List LintWarning
  | .type _ | .validator _ => []
  | .shape props => lintShape location props
  | .list rules => lintRules location none 0 rules

/-- The warnings of a shape's property typesets. -/
def lintShape (location : List String) : List (String × Option Typeset) → List LintWarning
  | [] => []
  | (_, none) :: rest => lintShape location rest
  | (k, some ts) :: rest => lintAt (location ++ [k]) ts ++ lintShape location rest

/-- The warnings of list elements from index `i` on; `current` is the last type seen. -/
def lintRules (location : List String) (current : Option TypeName) :
    Nat → List Rule → List LintWarning
  | _, [] => []
  | i, r :: rest =>
    let here := location ++ [s!"index={i}"]
    match r with
    | .form (.type t) => lintRules location (some t) (i + 1) rest
    | .args entries =>
      (match current with
        | some t => lintArgs here t entries
        | none => []) ++ lintRules location current (i + 1) rest
    | .form (.shape props) => lintShape here props ++ lintRules location current (i + 1) rest
    | .form (.list inner) => lintRules here none 0 inner ++ lintRules location current (i + 1) rest
    | _ => lintRules location current (i + 1) rest

/-- The warnings of the arguments of type `t`. -/
def lintArgs (location : List String) (t : TypeName) : List (String × Arg) → List LintWarning
  | [] => []
  | (k, a) :: rest =>
    let here : List LintWarning :=
      if !t.argNames.contains k then
        let looks := match a with
          | .typeset _ => true
          | .data j => (ofJson j).isOk
        [⟨location, unreadArgMessage t k looks⟩]
      else
        match a with
        | .typeset ts => lintAt (location ++ ["args." ++ k]) ts
        | .data _ => []
    here ++ lintArgs location t rest

end

/-- The warnings of a typeset. -/
def lint (ts : Typeset) : List LintWarning :=
  lintAt [] ts

end Typeset

end Conformance
