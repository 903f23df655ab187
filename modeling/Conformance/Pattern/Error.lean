/-!
# Patterns: errors

Why a text is refused as a pattern: it is not written by the grammar, it asks for
something the flags in force forbid, or its automaton would be too large.
-/

namespace Conformance

namespace Pattern

/-- Why a text is refused as a pattern. -/
inductive PatternError where
  /-- The text ends inside an escape, a group name, a flag list or a property name. -/
  | unexpectedEnd
  | unclosedGroup
  | unopenedGroup
  | unclosedClass
  /-- A class range whose end comes before its start. -/
  | invalidClassRange
  /-- An escape that stands for no character or class inside a bracket class, or a
  class range whose end is no single character. -/
  | invalidClassEscape
  | lookAround
  | backreference
  | unrecognizedEscape
  /-- A hex escape that names no Unicode scalar value. -/
  | invalidHexEscape
  | invalidHexDigit
  /-- `\p` followed by a backslash. -/
  | invalidPropertyName
  /-- A repetition with nothing to repeat. -/
  | repetitionMissing
  /-- A counted repetition whose upper bound is below its lower bound. -/
  | invalidRepetitionCount
  | unclosedRepetitionCount
  | emptyDecimal
  | invalidDecimal
  | invalidFlag
  | duplicateFlag
  | repeatedNegation
  | danglingNegation
  | invalidGroupName
  | emptyGroupName
  | duplicateGroupName
  | unclosedSpecialWord
  | unrecognizedSpecialWord
  /-- Groups, classes or repetitions nested too deep. -/
  | nestTooDeep
  /-- A Unicode class, or a character outside ASCII in a class, with Unicode off. -/
  | unicodeNotAllowed
  /-- With Unicode off, an expression that could match a byte outside ASCII. -/
  | invalidUtf8
  | propertyNotFound
  | propertyValueNotFound
  /-- The automaton of the pattern would exceed the size limit. -/
  | tooLarge
deriving Repr, DecidableEq

end Pattern

end Conformance
