import Conformance.Unicode.Property

/-!
# Patterns: the written form

A pattern as it is written, before any flag is applied: literal characters, `.`,
assertions, escaped classes, bracket classes with their set operations, repetitions,
groups, alternations and concatenations.  Inline flag lists stay in the tree where they
stand, since they act on what follows them.

Trees nest, and a pattern may nest at most `nestLimit` levels deep.  A repetition, a
group, an alternation, a concatenation and a bracket class each open a level, and inside
a bracket class so do a nested bracket, a union of items and a set operation.
-/

namespace Conformance

namespace Pattern

/-- A flag that a pattern can switch on or off inline. -/
inductive Flag where
  /-- `i`: letters match without regard to case. -/
  | caseless
  /-- `m`: `^` and `$` match at line ends too. -/
  | multiLine
  /-- `s`: `.` matches a line feed too. -/
  | dotAll
  /-- `U`: repetitions are lazy unless marked. -/
  | swapGreed
  /-- `u`: classes and case are Unicode's. -/
  | unicode
  /-- `R`: a line ends at a carriage return too. -/
  | crlf
  /-- `x`: blanks and `#` comments in the pattern are ignored. -/
  | verbose
deriving Repr, DecidableEq

/-- An item of an inline flag list: a flag, or the `-` that turns the flags after it off. -/
inductive FlagItem where
  | negation
  | flag (f : Flag)
deriving Repr, DecidableEq

/-- The state an inline flag list gives a flag: `some true` to switch it on, `some false`
to switch it off, `none` if the list does not name it. -/
def flagState (items : List FlagItem) (f : Flag) : Option Bool :=
  go false items
where
  go (negated : Bool) : List FlagItem → Option Bool
    | [] => none
    | .negation :: rest => go true rest
    | .flag g :: rest => if g = f then some !negated else go negated rest

/-- A literal character, with whether it was written as `\x` and two hex digits: only
such a literal names a single byte, which matters when Unicode is off. -/
structure Literal where
  char : Char
  byteEscape : Bool := false
deriving Repr, DecidableEq

/-- The three classes `\d`, `\s` and `\w`. -/
inductive PerlClass where
  | digit
  | space
  | word
deriving Repr, DecidableEq

/-- The ASCII classes that a bracket class may name as `[:name:]`. -/
inductive AsciiClass where
  | alnum | alpha | ascii | blank | cntrl | digit | graph
  | lower | print | punct | space | upper | word | xdigit
deriving Repr, DecidableEq

/-- The ASCII class of a name. -/
def AsciiClass.ofName? : String → Option AsciiClass
  | "alnum" => some .alnum
  | "alpha" => some .alpha
  | "ascii" => some .ascii
  | "blank" => some .blank
  | "cntrl" => some .cntrl
  | "digit" => some .digit
  | "graph" => some .graph
  | "lower" => some .lower
  | "print" => some .print
  | "punct" => some .punct
  | "space" => some .space
  | "upper" => some .upper
  | "word" => some .word
  | "xdigit" => some .xdigit
  | _ => none

/-- The zero-width assertions as written. -/
inductive Assertion where
  /-- `^` -/
  | startLine
  /-- `$` -/
  | endLine
  /-- `\A` -/
  | startText
  /-- `\z` -/
  | endText
  /-- `\b` -/
  | wordBoundary
  /-- `\B` -/
  | notWordBoundary
  /-- `\b{start}` or `\<` -/
  | wordStart
  /-- `\b{end}` or `\>` -/
  | wordEnd
  /-- `\b{start-half}` -/
  | wordStartHalf
  /-- `\b{end-half}` -/
  | wordEndHalf
deriving Repr, DecidableEq

/-- The set operations of bracket classes. -/
inductive SetOp where
  /-- `&&` -/
  | intersection
  /-- `--` -/
  | difference
  /-- `~~` -/
  | symmetricDifference
deriving Repr, DecidableEq

/-- The contents of a bracket class. -/
inductive ClassSet where
  /-- Nothing, as on one side of `[&&a]`. -/
  | empty
  | literal (l : Literal)
  /-- A range `a-z` of literals. -/
  | range (lo hi : Literal)
  | ascii (c : AsciiClass) (negated : Bool)
  /-- A property class `\p{…}`; `negated` says whether it names the complement. -/
  | property (q : Unicode.Query) (negated : Bool)
  | perl (c : PerlClass) (negated : Bool)
  /-- A nested bracket class. -/
  | bracketed (negated : Bool) (inner : ClassSet)
  /-- Several items side by side. -/
  | union (items : List ClassSet)
  | op (kind : SetOp) (lhs rhs : ClassSet)
deriving Repr

/-- How a group was opened. -/
inductive GroupKind where
  /-- `( )` or a named group `(?<name> )`, with its number. -/
  | capture (index : Nat) (name : Option String)
  /-- `(?: )`, or `(?flags: )` with the flags that hold inside it. -/
  | nonCapturing (flags : List FlagItem)
deriving Repr, DecidableEq

/-- A pattern as written. -/
inductive Tree where
  | empty
  /-- An inline flag list `(?flags)`. -/
  | flags (items : List FlagItem)
  | literal (l : Literal)
  | dot
  | assertion (a : Assertion)
  | property (q : Unicode.Query) (negated : Bool)
  | perl (c : PerlClass) (negated : Bool)
  | bracket (negated : Bool) (set : ClassSet)
  /-- `min` to `max` (unbounded if `none`) repetitions, greedy unless marked lazy. -/
  | repetition (min : Nat) (max : Option Nat) (greedy : Bool) (sub : Tree)
  | group (kind : GroupKind) (sub : Tree)
  | alternation (branches : List Tree)
  | concat (items : List Tree)
deriving Repr

/-- The deepest a pattern may nest. -/
def nestLimit : Nat := 250

mutual

/-- Whether a class nests at most `n` levels deep. -/
def ClassSet.nestsWithin : Nat → ClassSet → Bool
  | n, .bracketed _ inner => n > 0 && inner.nestsWithin (n - 1)
  | n, .union items => n > 0 && ClassSet.allNestWithin (n - 1) items
  | n, .op _ lhs rhs => n > 0 && lhs.nestsWithin (n - 1) && rhs.nestsWithin (n - 1)
  | _, _ => true

/-- Whether every class of the list nests at most `n` levels deep. -/
def ClassSet.allNestWithin : Nat → List ClassSet → Bool
  | _, [] => true
  | n, c :: rest => c.nestsWithin n && ClassSet.allNestWithin n rest

end

mutual

/-- Whether a pattern nests at most `n` levels deep. -/
def Tree.nestsWithin : Nat → Tree → Bool
  | n, .bracket _ set => n > 0 && set.nestsWithin (n - 1)
  | n, .repetition _ _ _ sub => n > 0 && sub.nestsWithin (n - 1)
  | n, .group _ sub => n > 0 && sub.nestsWithin (n - 1)
  | n, .alternation ts => n > 0 && Tree.allNestWithin (n - 1) ts
  | n, .concat ts => n > 0 && Tree.allNestWithin (n - 1) ts
  | _, _ => true

/-- Whether every pattern of the list nests at most `n` levels deep. -/
def Tree.allNestWithin : Nat → List Tree → Bool
  | _, [] => true
  | n, t :: rest => t.nestsWithin n && Tree.allNestWithin n rest

end

end Pattern

end Conformance
