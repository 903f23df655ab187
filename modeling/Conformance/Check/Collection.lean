import Conformance.Check.Basic

/-!
# Validators of keyed collections and sets

* `hashMap` accepts what its qualifier permits, and otherwise objects used as
  dictionaries.  `length` must equal the number of properties.  A non-empty `keyExp`
  (with `keyFlags`) must match every key, and a well-formed typeset under `$values`
  checks every value; with `deep`, a value that fails is checked once more against the
  same `hashMap` typeset.  Without either, the minimum viable value is `{}`.
* `map` accepts what its qualifier permits, and otherwise maps.  `length` must equal
  the number of entries; `$keys` checks every key, `keyExp` matches string keys (only
  when `$keys` is absent or is exactly a string type), and `$values` checks every value.
  The checked entries make up the minimum viable value, a key checked twice keeping its
  first place.
* `set` accepts what its qualifier permits, and otherwise sets.  `length` must equal
  the number of elements, and `$values` checks every element; equal results are kept
  once.

A key that fails is reported with the step `key=` and the key, a value that fails with
`valueKey=` and its key.
-/

namespace Conformance

namespace Check

/-- The key pattern of a collection's arguments, if any. -/
def keyPattern (args : Args) : Except TypesetError (Option Pattern.Compiled) :=
  match Args.nonEmptyString? args "keyExp" with
  | some exp => (compilePattern exp (Args.nonEmptyString? args "keyFlags")).map some
  | none => .ok none

/-- Whether a collection of `n` members meets `length`. -/
def hasLength (args : Args) (n : Nat) : Bool :=
  (Args.count? args "length").all (Float.ofNat n == ·)

/-- Whether a typeset is exactly a string type when fully qualified. -/
def isStringTypeset (ts : Typeset) : Bool :=
  match ts.fullyQualify none with
  | .ok (.list [_, .form (.type .string)]) => true
  | _ => false

/-- Whether the key pattern refuses a key; only a string key is matched against it. -/
def refusesKey (keyExp : Option Pattern.Compiled) : Value → Bool
  | .string k => keyExp.any fun re => !re.isMatch k
  | _ => false

/-- The check of a dictionary's value against `ts`; with `deep`, a value that fails is
checked once more against the dictionary's own typeset, which has the last word. -/
def checkDictionaryValue (recur : Recur) (q : Qualifier) (args : Args) (ts : Typeset)
    (child : Value) (cctx : Context) : Except TypesetError Verdict :=
  match recur child ts cctx with
  | .error e => .error e
  | .ok (.failure m) =>
    if Args.flag? args "deep" == some true then
      recur child (.list [.qualifier q, .form (.type .hashMap), .args args]) cctx
    else .ok (.failure m)
  | .ok s => .ok s

/-- Checks the properties of a dictionary from the given one on. -/
def checkDictionary (recur : Recur) (v : Value) (q : Qualifier) (args : Args)
    (keyExp : Option Pattern.Compiled) (valuesTs : Option Typeset) (ctx : Context) :
    List (String × Value) → List (String × Value) → Except TypesetError Verdict
  | acc, [] => .ok (.success (.object none acc.reverse))
  | acc, (k, child) :: rest =>
    if refusesKey keyExp (.string k) then
      (mismatchAt v .hashMap q (some args) [keySegment "key" (.string k)]).map .failure
    else
      match valuesTs with
      | none => checkDictionary recur v q args keyExp valuesTs ctx acc rest
      | some ts =>
        match checkDictionaryValue recur q args ts child (ctx.derive v (some (.prop k))) with
        | .error e => .error e
        | .ok (.success mvv) =>
          let acc := if acc.any (·.1 == k) then acc.map (fun p => if p.1 == k then (k, mvv) else p)
            else (k, mvv) :: acc
          checkDictionary recur v q args keyExp valuesTs ctx acc rest
        | .ok (.failure m) =>
          childFailure v .hashMap q (some args) (keySegment "valueKey" (.string k)) m

/-- The validator of `hashMap`. -/
def validateHashMap (recur : Recur) (v : Value) (q : Qualifier) (args : Option Args)
    (ctx : Context) : Except TypesetError Verdict :=
  if q.permits v then .ok (.success v)
  else
    match v with
    | .object _ props =>
      match args with
      | none => .ok (.success (.object none []))
      | some a =>
        if !hasLength a props.length then mismatch v .hashMap q args
        else
          match keyPattern a with
          | .error e => .error e
          | .ok keyExp =>
            let valuesTs := typesetArg a "$values"
            if keyExp.isNone && valuesTs.isNone then .ok (.success (.object none []))
            else checkDictionary recur v q a keyExp valuesTs ctx [] props
    | _ => mismatch v .hashMap q args

/-- Sets the value of `key` among entries: the first entry with an equal key keeps its
place and its key and takes the value; otherwise the entry goes last. -/
def setEntry : List (Value × Value) → Value → Value → List (Value × Value)
  | [], key, val => [(key, val)]
  | (k, w) :: rest, key, val =>
    if k.same key then (k, val) :: rest else (k, w) :: setEntry rest key val

/-- The check of `x` against a typeset that may be absent: the minimum viable value, or the
failure; with no typeset, `undefined`. -/
def checkOptional (recur : Recur) (ts? : Option Typeset) (x : Value) (cctx : Context) :
    Except TypesetError (Except Mismatch Value) :=
  match ts? with
  | some ts =>
    match recur x ts cctx with
    | .error e => .error e
    | .ok (.success mvv) => .ok (.ok mvv)
    | .ok (.failure m) => .ok (.error m)
  | none => .ok (.ok .undefined)

/-- Checks the entries of a map from the given one on. -/
def checkEntries (recur : Recur) (v : Value) (q : Qualifier) (args : Args)
    (keysTs : Option Typeset) (keyExp : Option Pattern.Compiled) (valuesTs : Option Typeset)
    (ctx : Context) : List (Value × Value) → List (Value × Value) → Except TypesetError Verdict
  | acc, [] => .ok (.success (.map acc))
  | acc, (key, child) :: rest =>
    match checkOptional recur keysTs key (ctx.derive v none) with
    | .error e => .error e
    | .ok (.error m) => childFailure v .map q (some args) (keySegment "key" key) m
    | .ok (.ok keyMvv) =>
      if refusesKey keyExp key then (mismatchAt v .map q (some args) [keySegment "key" key]).map .failure
      else
        match checkOptional recur valuesTs child (ctx.derive v (some (.key key))) with
        | .error e => .error e
        | .ok (.error m) => childFailure v .map q (some args) (keySegment "valueKey" key) m
        | .ok (.ok valueMvv) =>
          let acc := if keysTs.isSome || valuesTs.isSome then setEntry acc keyMvv valueMvv else acc
          checkEntries recur v q args keysTs keyExp valuesTs ctx acc rest

/-- The validator of `map`. -/
def validateMap (recur : Recur) (v : Value) (q : Qualifier) (args : Option Args) (ctx : Context) :
    Except TypesetError Verdict :=
  if q.permits v then .ok (.success v)
  else
    match v with
    | .map entries =>
      match args with
      | none => .ok (.success (.map []))
      | some a =>
        if !hasLength a entries.length then mismatch v .map q args
        else
          let keysTs := typesetArg a "$keys"
          let valuesTs := typesetArg a "$values"
          let keyExp : Except TypesetError (Option Pattern.Compiled) :=
            if keysTs.all isStringTypeset then keyPattern a else .ok none
          match keyExp with
          | .error e => .error e
          | .ok keyExp =>
            if keysTs.isNone && valuesTs.isNone && keyExp.isNone then .ok (.success (.map []))
            else checkEntries recur v q a keysTs keyExp valuesTs ctx [] entries
    | _ => mismatch v .map q args

/-- Checks the elements of a set from the given one on. -/
def checkMembers (recur : Recur) (v : Value) (q : Qualifier) (args : Args) (ts : Typeset)
    (ctx : Context) : List Value → List Value → Except TypesetError Verdict
  | acc, [] => .ok (.success (.set acc))
  | acc, x :: rest =>
    match recur x ts (ctx.derive v none) with
    | .error e => .error e
    | .ok (.success mvv) => checkMembers recur v q args ts ctx (Value.insertDistinct acc mvv) rest
    | .ok (.failure m) => childFailure v .set q (some args) (keySegment "key" x) m

/-- The validator of `set`. -/
def validateSet (recur : Recur) (v : Value) (q : Qualifier) (args : Option Args) (ctx : Context) :
    Except TypesetError Verdict :=
  if q.permits v then .ok (.success v)
  else
    match v with
    | .set items =>
      match args with
      | none => .ok (.success (.set []))
      | some a =>
        if !hasLength a items.length then mismatch v .set q args
        else
          match typesetArg a "$values" with
          | some ts => checkMembers recur v q a ts ctx [] items
          | none => .ok (.success (.set []))
    | _ => mismatch v .set q args

end Check

end Conformance
