import Conformance.Typeset.Classify

/-!
# The typeset grammar

Which typesets are well formed.  A list must not be empty; a qualifier may only come
first; an arguments object must directly follow a type that takes arguments, once; a
shape may only stand at index 0 or directly after the qualifier; a custom validator
must be the last element and the only one; and a list needs at least one type, shape
or nested list, unless a validator implies `any`.

A *deep* check also checks the typesets nested in shapes, lists and arguments (`$` of
an object type must be a shape; `$`, `$keys` and `$values` of a collection must be
typesets).  A *fully-qualified* typeset is a list that starts with a qualifier and uses
no short forms: no shape or nested list element (they must be written as `object` or
`array` with a `$` argument) and no validator before a type.

The first violation in reading order is reported, located by `index=i`, `prop="p"` and
`args.key` through the nesting.
-/

namespace Conformance

/-- How thoroughly a typeset is checked. -/
structure GrammarOptions where
  /-- Also check nested typesets. -/
  deep : Bool := false
  /-- Require the fully-qualified form. -/
  fullyQualified : Bool := false
deriving DecidableEq, Repr

/-- What the elements read so far of a list leave open for an arguments object. -/
inductive ArgsScope where
  /-- Nothing yet. -/
  | none
  /-- A type, and whether it already has its arguments. -/
  | type (t : TypeName) (hasArgs : Bool)
  /-- A shape or nested list, which takes no arguments object. -/
  | implied

namespace Typeset

/-- The checks at the start of a list: it is not empty, and when fully qualified it
starts with a qualifier. -/
def listOpening (o : GrammarOptions) : List Rule → Except GrammarError Unit
  | [] => .error .emptyList
  | r :: _ => if o.fullyQualified && !r.isQualifier then .error .qualifierRequired else .ok ()

/-- The check at the end of a list: something names or implies a type. -/
def listClosing (qualified : Bool) (count : Nat) (validatorAt : Option Nat) (length : Nat) :
    Except GrammarError Unit :=
  if count = 0 && validatorAt.isNone then
    .error (if qualified && length == 1 then .qualifierOnly else .missingType)
  else .ok ()

/-- The `$keys`/`$values`/`$` argument names that a collection type reads as typesets. -/
def typesetArgNames : TypeName → List String
  | .array => ["$"]
  | .map => ["$keys", "$values"]
  | .hashMap | .set => ["$values"]
  | _ => []

/-- Wraps a violation with a location. -/
def nestAt (location : String) (r : Except GrammarError Unit) : Except GrammarError Unit :=
  r.mapError (GrammarError.nested location)

mutual

/-- Checks a typeset against the grammar. -/
def validate (o : GrammarOptions) : Typeset → Except GrammarError Unit
  | .type _ | .validator _ => if o.fullyQualified then .error .qualifierRequired else .ok ()
  | .shape props =>
    if o.fullyQualified then .error .qualifierRequired
    else if o.deep then validateShape o props
    else .ok ()
  | .list rules =>
    match listOpening o rules with
    | .error e => .error e
    | .ok () =>
      validateRules o (rules.head?.any Rule.isQualifier) rules.length 0 .none 0 none rules

/-- Checks the typesets of a shape's properties. -/
def validateShape (o : GrammarOptions) : List (String × Option Typeset) → Except GrammarError Unit
  | [] => .ok ()
  | (_, none) :: rest => validateShape o rest
  | (k, some ts) :: rest =>
    match nestAt ("prop=\"" ++ k ++ "\"") (validate o ts) with
    | .error e => .error e
    | .ok () => validateShape o rest

/-- Checks that the `$` argument of an object type, if present, is a well-formed shape. -/
def validateShapeArg (o : GrammarOptions) (t : TypeName) :
    List (String × Arg) → Except GrammarError Unit
  | [] => .ok ()
  | (k, a) :: rest =>
    if k == "$" then
      match a with
      | .typeset (.shape props) => nestAt "args.$" (validateShape o props)
      | _ => .error (.invalidShapeArg t)
    else validateShapeArg o t rest

/-- Checks that argument `key`, if present, is a well-formed typeset. -/
def validateTypesetArg (o : GrammarOptions) (t : TypeName) (key : String) :
    List (String × Arg) → Except GrammarError Unit
  | [] => .ok ()
  | (k, a) :: rest =>
    if k == key then
      match a with
      | .typeset ts => nestAt ("args." ++ key) (validate o ts)
      | .data _ => .error (.invalidTypesetArg key t)
    else validateTypesetArg o t key rest

/-- Checks the elements of a list from index `i` on.  `qualified` says whether the
list starts with a qualifier, `length` is its length, `count` the types, shapes and
lists seen so far, and `validatorAt` where a validator was seen. -/
def validateRules (o : GrammarOptions) (qualified : Bool) (length : Nat) :
    Nat → ArgsScope → Nat → Option Nat → List Rule → Except GrammarError Unit
  | _, _, count, validatorAt, [] => listClosing qualified count validatorAt length
  | i, scope, count, validatorAt, r :: rest =>
    match validatorAt with
    | some j => .error (if r.isValidator then .multipleValidators i else .misplacedValidator j)
    | none =>
      match r with
      | .qualifier _ =>
        if i != 0 then .error (.misplacedQualifier i)
        else validateRules o qualified length (i + 1) scope count none rest
      | .form (.type t) =>
        validateRules o qualified length (i + 1) (.type t false) (count + 1) none rest
      | .args entries =>
        match scope with
        | .type t false =>
          if !t.hasArgs then .error (.argsNotAccepted i t)
          else
            let nested : Except GrammarError Unit :=
              if !o.deep then .ok ()
              else if t.isObjectType then nestAt s!"index={i}" (validateShapeArg o t entries)
              else
                match typesetArgNames t with
                | [key] => nestAt s!"index={i}" (validateTypesetArg o t key entries)
                | [key1, key2] =>
                  match nestAt s!"index={i}" (validateTypesetArg o t key1 entries) with
                  | .error e => .error e
                  | .ok () => nestAt s!"index={i}" (validateTypesetArg o t key2 entries)
                | _ => .ok ()
            match nested with
            | .error e => .error e
            | .ok () => validateRules o qualified length (i + 1) (.type t true) count none rest
        | _ => .error (.argsWithoutType i)
      | .form (.shape props) =>
        if !(i == 0 || (i == 1 && qualified)) then .error (.misplacedShape i)
        else if o.fullyQualified then .error (.shorthandNotAllowed i .shape)
        else
          let nested := if o.deep then nestAt s!"index={i}" (validateShape o props) else .ok ()
          match nested with
          | .error e => .error e
          | .ok () => validateRules o qualified length (i + 1) .implied (count + 1) none rest
      | .form (.list inner) =>
        if o.fullyQualified then .error (.shorthandNotAllowed i .array)
        else
          let nested : Except GrammarError Unit :=
            if !o.deep then .ok ()
            else
              match listOpening o inner with
              | .error e => .error (.nested s!"index={i}" e)
              | .ok () =>
                nestAt s!"index={i}"
                  (validateRules o (inner.head?.any Rule.isQualifier) inner.length 0 .none 0 none
                    inner)
          match nested with
          | .error e => .error e
          | .ok () => validateRules o qualified length (i + 1) .implied (count + 1) none rest
      | .form (.validator _) =>
        if o.fullyQualified && count == 0 then .error .missingType
        else validateRules o qualified length (i + 1) scope count (some i) rest

end

/-- Whether the typeset is well formed. -/
def isWellFormed (o : GrammarOptions) (ts : Typeset) : Bool :=
  (validate o ts).isOk

/-- Checks the typeset, reporting a violation with the typeset written out. -/
def verify (o : GrammarOptions) (ts : Typeset) : Except TypesetError Unit :=
  (validate o ts).mapError (TypesetError.invalid ts.print)

/-- Whether a JSON document reads as a well-formed typeset (no string names a
validator). -/
def isTypesetJson (o : GrammarOptions) (j : Json) : Bool :=
  match ofJson j with
  | .ok ts => isWellFormed o ts
  | .error _ => false

end Typeset

end Conformance
