import Conformance.TypeName

/-!
# Errors of typesets and of their use

Two kinds of failure never mix.  A value that does not conform to its typeset is a
verdict (see `Conformance.Verdict`), never an error.  A malformed typeset, an unknown
name, an inconsistent context or a type without a validator is a `TypesetError`: the
fault is in the program that asked, and the check stops.

`GrammarError` names the rule of the typeset grammar that a typeset breaks; a
violation inside a nested typeset is wrapped in `nested` with its location.  Each
error has one text, given by its `message`, and a stable `code`.
-/

namespace Conformance

/-- What the grammar expected where something else was found. -/
inductive Expecting where
  /-- A shape, at the leading position of a list. -/
  | shape
  /-- An arguments object, anywhere else. -/
  | typeArgs
deriving DecidableEq, Repr

/-- A short form that a fully-qualified typeset may not use. -/
inductive Shorthand where
  | shape
  | array
  | validator
deriving DecidableEq, Repr

/-- A rule of the typeset grammar that a typeset breaks. -/
inductive GrammarError where
  /-- A list typeset must not be empty. -/
  | emptyList
  /-- Something that cannot stand at this position of a list. -/
  | unexpected (index : Nat) (expecting : Expecting)
  /-- Something that is no typeset at all (a number, a boolean, `null`), as JSON text. -/
  | notATypeset (found : String)
  /-- A string that names neither a qualifier nor a type. -/
  | unknownType (name : String)
  /-- A qualifier that is not the first element. -/
  | misplacedQualifier (index : Nat)
  /-- A qualifier alone. -/
  | qualifierOnly
  /-- A list that names no type and has no validator to imply one. -/
  | missingType
  /-- An arguments object that does not directly follow a type. -/
  | argsWithoutType (index : Nat)
  /-- An arguments object after a type that takes none. -/
  | argsNotAccepted (index : Nat) (type : TypeName)
  /-- A shape outside the leading position. -/
  | misplacedShape (index : Nat)
  /-- A custom validator followed by further elements. -/
  | misplacedValidator (index : Nat)
  /-- A second custom validator in one list. -/
  | multipleValidators (index : Nat)
  /-- A fully-qualified typeset must be a list that starts with a qualifier. -/
  | qualifierRequired
  /-- A short form in a fully-qualified typeset. -/
  | shorthandNotAllowed (index : Nat) (form : Shorthand)
  /-- The `$` argument of an object type is not a shape. -/
  | invalidShapeArg (type : TypeName)
  /-- A `$`, `$keys` or `$values` argument that is not a typeset. -/
  | invalidTypesetArg (key : String) (type : TypeName)
  /-- A violation inside a nested typeset, with its location (`index=1`, `prop="a"`). -/
  | nested (location : String) (inner : GrammarError)
deriving Repr

namespace Expecting

/-- The text of what was expected. -/
def message : Expecting → String
  | .shape => "Expecting object (shape)"
  | .typeArgs => "Expecting object (type args)"

end Expecting

namespace Shorthand

/-- The name of a short form. -/
def name : Shorthand → String
  | .shape => "shape"
  | .array => "array"
  | .validator => "validator"

end Shorthand

namespace GrammarError

/-- The text of a grammar violation. -/
def message : GrammarError → String
  | .emptyList => "list typeset must not be empty"
  | .unexpected i e => s!"Unexpected value at index={i}: " ++ e.message
  | .notATypeset found => "Expecting a typeset, found " ++ found
  | .unknownType name => "unknown type name \"" ++ name ++ "\""
  | .misplacedQualifier i => s!"qualifier at index={i} must be the first element"
  | .qualifierOnly => "a qualifier alone is not a typeset"
  | .missingType => "typeset must contain at least one type"
  | .argsWithoutType i => s!"type args at index={i} must directly follow a type"
  | .argsNotAccepted i t => "type=\"" ++ t.name ++ s!"\" before index={i} does not accept args"
  | .misplacedShape i =>
    s!"shape at index={i} must be at index 0 or directly after the qualifier"
  | .misplacedValidator i => s!"custom validator at index={i} must be the last element"
  | .multipleValidators i =>
    s!"only one custom validator is allowed; found another at index={i}"
  | .qualifierRequired => "fully-qualified typeset must be a list starting with a qualifier"
  | .shorthandNotAllowed i form =>
    s!"Unexpected value at index={i}: shorthand " ++ form.name ++
      " is not allowed in a fully-qualified typeset"
  | .invalidShapeArg t => "Expecting a valid shape descriptor for type=\"" ++ t.name ++ "\""
  | .invalidTypesetArg key t =>
    "Expecting a valid typeset in args." ++ key ++ " for type=\"" ++ t.name ++ "\""
  | .nested location inner => location ++ ": " ++ inner.message

/-- The violation under all `nested` wrappers. -/
def innermost : GrammarError → GrammarError
  | .nested _ inner => inner.innermost
  | e => e

/-- The stable name of the rule broken. -/
def code : GrammarError → String
  | .emptyList => "EmptyList"
  | .unexpected _ _ => "Unexpected"
  | .notATypeset _ => "NotATypeset"
  | .unknownType _ => "UnknownType"
  | .misplacedQualifier _ => "MisplacedQualifier"
  | .qualifierOnly => "QualifierOnly"
  | .missingType => "MissingType"
  | .argsWithoutType _ => "ArgsWithoutType"
  | .argsNotAccepted _ _ => "ArgsNotAccepted"
  | .misplacedShape _ => "MisplacedShape"
  | .misplacedValidator _ => "MisplacedValidator"
  | .multipleValidators _ => "MultipleValidators"
  | .qualifierRequired => "QualifierRequired"
  | .shorthandNotAllowed _ _ => "ShorthandNotAllowed"
  | .invalidShapeArg _ => "InvalidShapeArg"
  | .invalidTypesetArg _ _ => "InvalidTypesetArg"
  | .nested _ _ => "Nested"

end GrammarError

/-- Why a validation context is inconsistent. -/
inductive ContextFault where
  /-- The parent is a primitive, of the given kind. -/
  | parentNotObjectLike (kind : String)
  /-- A parent key was given without a parent. -/
  | keyWithoutParent
deriving DecidableEq, Repr

/-- The text of a context fault. -/
def ContextFault.message : ContextFault → String
  | .parentNotObjectLike kind => "parent must be an object-like value, found " ++ kind
  | .keyWithoutParent => "parent_key given without a parent"

/-- A fault in the typeset, context or registry that a check was asked to use, or a check that
ran out of fuel. -/
inductive TypesetError where
  /-- The typeset, written as JSON, breaks the grammar. -/
  | invalid (typeset : String) (reason : GrammarError)
  /-- A name that is no type. -/
  | unknownType (name : String)
  /-- A symbol that is no qualifier. -/
  | unknownQualifier (symbol : String)
  /-- Arguments for a type that takes none. -/
  | argsNotAccepted (type : TypeName)
  /-- No validator is registered for the type. -/
  | missingValidator (type : TypeName)
  /-- The context is inconsistent. -/
  | invalidContext (fault : ContextFault)
  /-- A typeset, written as JSON, that must be a list and is not. -/
  | listRequired (typeset : String)
  /-- A typeset, written as JSON, that describes more than one type. -/
  | notSingleType (typeset : String)
  /-- A pattern argument that is no regular expression. -/
  | invalidPattern (pattern : String)
  /-- Pattern flags other than `i`, `m`, `s`, `u`, `g` and `y`. -/
  | invalidPatternFlags (flags : String)
  /-- A check ran out of fuel before it reached the deepest nested value; a check started from
  the value's depth never does. -/
  | outOfFuel
deriving Repr

namespace TypesetError

/-- The text of the error. -/
def message : TypesetError → String
  | .invalid ts reason => "invalid typeset=" ++ ts ++ ": " ++ reason.message
  | .unknownType name => "unknown type name \"" ++ name ++ "\""
  | .unknownQualifier sym => "unknown qualifier \"" ++ sym ++ "\""
  | .argsNotAccepted t => "type=\"" ++ t.name ++ "\" does not accept args"
  | .missingValidator t => "missing validator for type=\"" ++ t.name ++ "\""
  | .invalidContext fault => "invalid type validator context: " ++ fault.message
  | .listRequired ts => "typeset=" ++ ts ++ " must be a list"
  | .notSingleType ts => "specified singleType=" ++ ts ++ " typeset must represent a single type"
  | .invalidPattern p => "invalid regular expression /" ++ p ++ "/"
  | .invalidPatternFlags f => "invalid regular expression flags \"" ++ f ++ "\""
  | .outOfFuel => "check ran out of fuel"

/-- The stable name of the error. -/
def code : TypesetError → String
  | .invalid _ _ => "Invalid"
  | .unknownType _ => "UnknownType"
  | .unknownQualifier _ => "UnknownQualifier"
  | .argsNotAccepted _ => "ArgsNotAccepted"
  | .missingValidator _ => "MissingValidator"
  | .invalidContext _ => "InvalidContext"
  | .listRequired _ => "ListRequired"
  | .notSingleType _ => "NotSingleType"
  | .invalidPattern _ => "InvalidPattern"
  | .invalidPatternFlags _ => "InvalidPatternFlags"
  | .outOfFuel => "OutOfFuel"

end TypesetError

end Conformance
