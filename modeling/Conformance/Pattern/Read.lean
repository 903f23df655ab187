import Conformance.Pattern.Tree
import Conformance.Pattern.Error
import Conformance.Text.Classes

/-!
# Patterns: reading

Reads the written form of a pattern from its text, one character at a time, keeping the
groups and bracket classes that are open on two stacks.

The grammar, and the rules that decide borderline texts:

* `(`, `)`, `|`, `[`, `?`, `*`, `+` and `{` are operators everywhere outside classes;
  every other character, `]` and `}` included, stands for itself.
* A repetition needs something before it in its concatenation, and not an inline flag
  list.  After `?`, `*` or `+` a second `?` makes it lazy; after the `}` of a count, blanks
  (in verbose mode) may stand before that `?`.
* A count `{n}`, `{n,}` or `{n,m}` is a decimal of at most 32 bits; white space may stand
  around the numbers, and in verbose mode also between their digits.
* `(?=`, `(?!`, `(?<=` and `(?<!` are refused.  `(?P<name>` and `(?<name>` open a named
  group: a name starts with `_` or a letter and goes on with `_`, `.`, `[`, `]`, letters
  and digits, where letters and digits are Unicode's; names may not repeat.
* `(?flags)` and `(?flags:` take the flags `imsUuRx`, each at most once, with at most one
  `-` that is followed by a flag; `(?)` is a repetition with nothing to repeat.
* Escapes: a digit is a refused back-reference; `\x`, `\u` and `\U` take two, four or
  eight hex digits, or any number of them in braces; `\p` and `\P` take one letter or a
  braced name, with `=`, `:` or `!=` between a property and a value; `\d \s \w \D \S \W`;
  the meta characters and every other ASCII character that is not a letter, a digit,
  `<` or `>` stand for themselves; `\a \f \t \n \r \v` are control characters; `\A \z \b
  \B \< \>` and `\b{start}`, `\b{end}`, `\b{start-half}`, `\b{end-half}` are assertions.
  Any other escape is refused.
* In a bracket class, `^` first negates it; then any number of `-`, or else one `]`,
  stand for themselves.  `[:name:]` names an ASCII class inside a class, `&&`, `--` and
  `~~` are set operations that group to the left, and `a-b` is a range of two literals.
  A `-` before `]` or before `-` (blanks and comments skipped in verbose mode) stands for
  itself.
* In verbose mode, white space and `#` comments are skipped between items.

A pattern read in full is then checked to nest at most `nestLimit` levels deep.
-/

namespace Conformance

namespace Pattern

open Text

/-- The reader's position in the pattern, with what it remembers so far. -/
structure Reader where
  text : Array Char
  pos : Nat := 0
  /-- Whether blanks and comments are skipped. -/
  verbose : Bool := false
  /-- The number of capture groups opened so far. -/
  captures : Nat := 0
  /-- The names of the named groups so far. -/
  names : List String := []

namespace Reader

/-- Whether every character has been read. -/
def atEnd (r : Reader) : Bool := r.text.size ≤ r.pos

/-- The character at the position; only asked for when one is there. -/
def current (r : Reader) : Char := r.text.getD r.pos ' '

/-- The number of characters not yet read, plus one: enough steps for any loop that
reads a character each time. -/
def fuel (r : Reader) : Nat := r.text.size - r.pos + 1

end Reader

/-- Reading a pattern: the reader as state, and a refusal as error. -/
abbrev ReadM := StateT Reader (Except PatternError)

/-- The first position from `i` on whose character satisfies `p`, or the end. -/
def firstFrom (text : Array Char) (p : Char → Bool) (i : Nat) : Nat :=
  go (text.size - i + 1) i
where
  go : Nat → Nat → Nat
    | 0, j => j
    | fuel + 1, j =>
      match text[j]? with
      | some c => if p c then j else go fuel (j + 1)
      | none => j

/-- The first position from `i` on that is neither white space nor inside a `#` comment,
which runs up to and including the next line feed. -/
def skipBlank (text : Array Char) : Nat → Nat → Nat
  | 0, i => i
  | fuel + 1, i =>
    match text[i]? with
    | none => i
    | some c =>
      if isSpaceChar c then skipBlank text fuel (i + 1)
      else if c = '#' then
        let j := firstFrom text (· = '\n') (i + 1)
        skipBlank text fuel (if j < text.size then j + 1 else text.size)
      else i

/-- Whether the text holds `s` at position `i`. -/
def holdsAt (text : Array Char) (i : Nat) (s : List Char) : Bool :=
  (text.extract i (i + s.length)).toList == s

/-- Whether every character has been read. -/
def isEnd : ReadM Bool := do return (← get).atEnd

/-- The current character. -/
def cur : ReadM Char := do return (← get).current

/-- Moves past the current character; whether another one follows. -/
def bump : ReadM Bool := modifyGet fun r =>
  if r.atEnd then (false, r) else (r.pos + 1 < r.text.size, { r with pos := r.pos + 1 })

/-- Skips blanks and comments in verbose mode. -/
def skipSpace : ReadM Unit := modify fun r =>
  if r.verbose then { r with pos := skipBlank r.text (r.text.size + 1) r.pos } else r

/-- Moves past the current character and the blanks after it; whether a character
follows. -/
def bumpAndSkip : ReadM Bool := do
  if !(← bump) then return false
  skipSpace
  return !(← isEnd)

/-- The character after the current one, past blanks in verbose mode.  Past a `#` the
first character that is not white space is taken, comment or not; if none is found the
plain next character is. -/
def peekSpace : ReadM (Option Char) := do
  let r ← get
  if !r.verbose then return if r.atEnd then none else r.text[r.pos + 1]?
  if r.atEnd then return none
  let start := r.pos + 1
  return go r.text start (r.text.size + 1) start false
where
  go (text : Array Char) (start : Nat) : Nat → Nat → Bool → Option Char
    | 0, _, _ => text[start]?
    | fuel + 1, i, inComment =>
      match text[i]? with
      | none => text[start]?
      | some c =>
        if isSpaceChar c then go text start fuel (i + 1) inComment
        else if !inComment && c = '#' then go text start fuel (i + 1) true
        else some c

/-- Moves past `s` if the text holds it here. -/
def bumpIf (s : String) : ReadM Bool := do
  let r ← get
  if holdsAt r.text r.pos s.toList then
    set { r with pos := r.pos + s.length }
    return true
  return false

/-- The value of an `Except`, or its error thrown. -/
def orThrow {α : Type} : Except PatternError α → ReadM α
  | .ok a => pure a
  | .error e => throw e

/-- The value of an option, or the error thrown. -/
def someOr {α : Type} (e : PatternError) : Option α → ReadM α
  | some a => pure a
  | none => throw e

/-- The value of a hex digit. -/
def hexValue? (c : Char) : Option Nat :=
  if c.isDigit then some (c.toNat - 48)
  else if 'a' ≤ c && c ≤ 'f' then some (c.toNat - 87)
  else if 'A' ≤ c && c ≤ 'F' then some (c.toNat - 55)
  else none

/-- The number that hex digits spell. -/
def hexNumber (ds : List Char) : Nat :=
  ds.foldl (fun acc c => acc * 16 + (hexValue? c).getD 0) 0

/-- The number that decimal digits spell. -/
def decimalNumber (ds : List Char) : Nat :=
  ds.foldl (fun acc c => acc * 10 + (c.toNat - 48)) 0

/-- The largest value of 32 bits. -/
def maxWord : Nat := 0xFFFFFFFF

/-- The Unicode scalar value of a number, if it is one. -/
def scalarOf? (n : Nat) : Option Char :=
  if n ≤ 0x10FFFF && !(0xD800 ≤ n && n ≤ 0xDFFF) then some (Char.ofNat n) else none

/-- The meta characters, which an escape turns into literals. -/
def isMeta (c : Char) : Bool :=
  "\\.+*?()|[]\x7b\x7d^$#&-~".toList.contains c

/-- The characters that a backslash turns into themselves: the meta characters and every
other ASCII character that is not a letter, a digit, `<` or `>`. -/
def isEscapable (c : Char) : Bool :=
  isMeta c || (c.toNat < 128 && !c.isAlphanum && c != '<' && c != '>')

/-- Whether a character may stand in a group name, first or later. -/
def isNameChar (c : Char) (first : Bool) : Bool :=
  if first then c = '_' || alphabeticRanges.contains c.toNat
  else c = '_' || c = '.' || c = '[' || c = ']' || alphabeticRanges.contains c.toNat ||
    numericRanges.contains c.toNat

/-- The flag of a letter in an inline flag list. -/
def flagOf? : Char → Option Flag
  | 'i' => some .caseless
  | 'm' => some .multiLine
  | 's' => some .dotAll
  | 'U' => some .swapGreed
  | 'u' => some .unicode
  | 'R' => some .crlf
  | 'x' => some .verbose
  | _ => none

/-- The class of `\d \s \w \D \S \W`, with its negation. -/
def perlOf? : Char → Option (PerlClass × Bool)
  | 'd' => some (.digit, false)
  | 'D' => some (.digit, true)
  | 's' => some (.space, false)
  | 'S' => some (.space, true)
  | 'w' => some (.word, false)
  | 'W' => some (.word, true)
  | _ => none

/-- The text before and after the first occurrence of `sep`. -/
def splitOnce (sep : List Char) : List Char → Option (List Char × List Char)
  | [] => none
  | c :: rest =>
    if sep.isPrefixOf (c :: rest) then some ([], (c :: rest).drop sep.length)
    else (splitOnce sep rest).map fun (a, b) => (c :: a, b)

/-- The query of a braced property name, with whether it was written with `!=`. -/
def propertyQuery (name : List Char) : Unicode.Query × Bool :=
  match splitOnce ['!', '='] name with
  | some (a, b) => (.byValue (String.ofList a) (String.ofList b), true)
  | none =>
    match splitOnce [':'] name with
    | some (a, b) => (.byValue (String.ofList a) (String.ofList b), false)
    | none =>
      match splitOnce ['='] name with
      | some (a, b) => (.byValue (String.ofList a) (String.ofList b), false)
      | none => (.named (String.ofList name), false)

/-- Exactly `count` hex digits, blanks between them skipped in verbose mode. -/
def fixedHexDigits : Nat → Nat → List Char → ReadM (List Char)
  | 0, _, acc => return acc.reverse
  | left + 1, done, acc => do
    if done > 0 then
      if !(← bumpAndSkip) then throw .unexpectedEnd
    let c ← cur
    if (hexValue? c).isNone then throw .invalidHexDigit
    fixedHexDigits left (done + 1) (c :: acc)

/-- The characters up to a closing brace, each step past blanks in verbose mode. -/
def braceContents (hexOnly : Bool) : Nat → List Char → ReadM (List Char)
  | 0, acc => return acc.reverse
  | fuel + 1, acc => do
    if !(← bumpAndSkip) then return acc.reverse
    let c ← cur
    if c = '}' then return acc.reverse
    if hexOnly && (hexValue? c).isNone then throw .invalidHexDigit
    braceContents hexOnly fuel (c :: acc)

/-- A hex escape after its backslash: `x`, `u` or `U` and its digits. -/
def readHex : ReadM Literal := do
  let kind ← cur
  let width := if kind = 'x' then 2 else if kind = 'u' then 4 else 8
  if !(← bumpAndSkip) then throw .unexpectedEnd
  if (← cur) = '{' then
    let digits ← braceContents true (← get).fuel []
    if ← isEnd then throw .unexpectedEnd
    let _ ← bumpAndSkip
    if digits.isEmpty then throw .invalidHexEscape
    let n := hexNumber digits
    if n > maxWord then throw .invalidHexEscape
    let c ← someOr .invalidHexEscape (scalarOf? n)
    return { char := c }
  else
    let digits ← fixedHexDigits width 0 []
    let _ ← bumpAndSkip
    let c ← someOr .invalidHexEscape (scalarOf? (hexNumber digits))
    return { char := c, byteEscape := kind = 'x' }

/-- A property class after its backslash: `p` or `P`, then a letter or a braced name. -/
def readProperty : ReadM Tree := do
  let negated := (← cur) = 'P'
  if !(← bumpAndSkip) then throw .unexpectedEnd
  if (← cur) = '{' then
    let name ← braceContents false (← get).fuel []
    if ← isEnd then throw .unexpectedEnd
    let _ ← bump
    let (q, notEqual) := propertyQuery name
    return .property q (negated != notEqual)
  else
    let c ← cur
    if c = '\\' then throw .invalidPropertyName
    let _ ← bumpAndSkip
    return .property (.oneLetter c) negated

/-- Whether a character may stand in the name of a special word assertion. -/
def isWordNameChar (c : Char) : Bool :=
  ('a' ≤ c && c ≤ 'z') || ('A' ≤ c && c ≤ 'Z') || c = '-'

/-- The characters of a special word assertion's name. -/
def wordName : Nat → List Char → ReadM (List Char)
  | 0, acc => return acc.reverse
  | fuel + 1, acc => do
    if ← isEnd then return acc.reverse
    let c ← cur
    if !isWordNameChar c then return acc.reverse
    let _ ← bumpAndSkip
    wordName fuel (c :: acc)

/-- After `\b`, at `{`: the special word assertion it opens, or `none` (and the position
back at the brace) when no name follows, so that the brace opens a count. -/
def readSpecialWord : ReadM (Option Assertion) := do
  let start := (← get).pos
  if !(← bumpAndSkip) then throw .unexpectedEnd
  if !isWordNameChar (← cur) then
    modify fun r => { r with pos := start }
    return none
  let name ← wordName (← get).fuel []
  if ← isEnd then throw .unclosedSpecialWord
  if (← cur) != '}' then throw .unclosedSpecialWord
  let _ ← bump
  match String.ofList name with
  | "start" => return some .wordStart
  | "end" => return some .wordEnd
  | "start-half" => return some .wordStartHalf
  | "end-half" => return some .wordEndHalf
  | _ => throw .unrecognizedSpecialWord

/-- An escape, at its backslash. -/
def readEscape : ReadM Tree := do
  if !(← bump) then throw .unexpectedEnd
  let c ← cur
  if c.isDigit then throw .backreference
  if c = 'x' || c = 'u' || c = 'U' then return .literal (← readHex)
  if c = 'p' || c = 'P' then return ← readProperty
  if let some (k, negated) := perlOf? c then
    let _ ← bump
    return .perl k negated
  let _ ← bump
  if isEscapable c then return .literal { char := c }
  match c with
  | 'a' => return .literal { char := Char.ofNat 7 }
  | 'f' => return .literal { char := Char.ofNat 12 }
  | 't' => return .literal { char := '\t' }
  | 'n' => return .literal { char := '\n' }
  | 'r' => return .literal { char := '\r' }
  | 'v' => return .literal { char := Char.ofNat 11 }
  | 'A' => return .assertion .startText
  | 'z' => return .assertion .endText
  | 'B' => return .assertion .notWordBoundary
  | '<' => return .assertion .wordStart
  | '>' => return .assertion .wordEnd
  | 'b' =>
    if ← isEnd then return .assertion .wordBoundary
    if (← cur) != '{' then return .assertion .wordBoundary
    match ← readSpecialWord with
    | some a => return .assertion a
    | none => return .assertion .wordBoundary
  | _ => throw .unrecognizedEscape

/-- One item outside a class: an escape, `.`, `^`, `$` or a literal character. -/
def readPrimitive : ReadM Tree := do
  let c ← cur
  if c = '\\' then return ← readEscape
  let _ ← bump
  if c = '.' then return .dot
  if c = '^' then return .assertion .startLine
  if c = '$' then return .assertion .endLine
  return .literal { char := c }

/-- One item inside a class: an escape or a literal character. -/
def readClassItem : ReadM Tree := do
  let c ← cur
  if c = '\\' then return ← readEscape
  let _ ← bump
  return .literal { char := c }

/-- The class item that a read item stands for. -/
def ClassSet.ofItem : Tree → Except PatternError ClassSet
  | .literal l => .ok (.literal l)
  | .perl k negated => .ok (.perl k negated)
  | .property q negated => .ok (.property q negated)
  | _ => .error .invalidClassEscape

/-- The literal that a read item stands for, as the end of a range. -/
def literalOf : Tree → Except PatternError Literal
  | .literal l => .ok l
  | _ => .error .invalidClassEscape

/-- An item of a class, or a range of two. -/
def readClassRange : ReadM ClassSet := do
  let first ← readClassItem
  skipSpace
  if ← isEnd then throw .unclosedClass
  let mut isRange := false
  if (← cur) = '-' then
    let next ← peekSpace
    isRange := next != some ']' && next != some '-'
  if !isRange then return ← orThrow (ClassSet.ofItem first)
  if !(← bumpAndSkip) then throw .unclosedClass
  let second ← readClassItem
  let lo ← orThrow (literalOf first)
  let hi ← orThrow (literalOf second)
  if hi.char < lo.char then throw .invalidClassRange
  return .range lo hi

/-- Literal `-` characters at the start of a class. -/
def leadingDashes : Nat → List ClassSet → ReadM (List ClassSet)
  | 0, acc => return acc
  | fuel + 1, acc => do
    if (← cur) != '-' then return acc
    if !(← bumpAndSkip) then throw .unclosedClass
    leadingDashes fuel (.literal { char := '-' } :: acc)

/-- Opens a class at its `[`: whether it is negated, and its first items (latest first):
leading `-` characters, or else a leading `]`. -/
def readClassOpen : ReadM (Bool × List ClassSet) := do
  if !(← bumpAndSkip) then throw .unclosedClass
  let mut negated := false
  if (← cur) = '^' then
    if !(← bumpAndSkip) then throw .unclosedClass
    negated := true
  let dashes ← leadingDashes (← get).fuel []
  if dashes.isEmpty && (← cur) = ']' then
    if !(← bumpAndSkip) then throw .unclosedClass
    return (negated, [.literal { char := ']' }])
  return (negated, dashes)

/-- An ASCII class `[:name:]` or `[:^name:]` at position `i` of the text, with the
position after it. -/
def asciiClassAt (text : Array Char) (i : Nat) : Option (AsciiClass × Bool × Nat) :=
  if text[i + 1]? != some ':' || text.size ≤ i + 2 then none
  else
    let (negated, start) := if text[i + 2]? = some '^' then (true, i + 3) else (false, i + 2)
    if text.size ≤ start then none
    else
      let stop := firstFrom text (· = ':') start
      if text.size ≤ stop || text[stop + 1]? != some ']' then none
      else
        (AsciiClass.ofName? (String.ofList (text.extract start stop).toList)).map
          fun c => (c, negated, stop + 2)

/-- A class still open while reading a bracket class. -/
inductive ClassFrame where
  /-- A bracket opened inside the items `outer` (latest first). -/
  | opened (outer : List ClassSet) (negated : Bool)
  /-- The left operand of a set operation, waiting for its right one. -/
  | operand (kind : SetOp) (lhs : ClassSet)

/-- The item that items (latest first) make together. -/
def unionOf : List ClassSet → ClassSet
  | [] => .empty
  | [c] => c
  | cs => .union cs.reverse

/-- Completes a pending set operation with its right operand. -/
def closeOperand (rhs : ClassSet) : List ClassFrame → ClassSet × List ClassFrame
  | .operand kind lhs :: rest => (.op kind lhs rhs, rest)
  | stack => (rhs, stack)

/-- Reads a bracket class from its `[` to the matching `]`: whether it is negated, and
its contents. -/
def readClassLoop : Nat → List ClassSet → List ClassFrame → ReadM (Bool × ClassSet)
  | 0, _, _ => throw .unclosedClass
  | fuel + 1, items, stack => do
    skipSpace
    if ← isEnd then throw .unclosedClass
    let c ← cur
    let r ← get
    if c = '[' then
      if !stack.isEmpty then
        if let some (kind, negated, next) := asciiClassAt r.text r.pos then
          set { r with pos := next }
          return ← readClassLoop fuel (.ascii kind negated :: items) stack
      let (negated, inner) ← readClassOpen
      readClassLoop fuel inner (.opened items negated :: stack)
    else if c = ']' then
      match closeOperand (unionOf items) stack with
      | (set, .opened outer negated :: rest) =>
        let _ ← bump
        if rest.isEmpty then return (negated, set)
        readClassLoop fuel (.bracketed negated set :: outer) rest
      | _ => throw .unclosedClass
    else
      let op : Option SetOp :=
        if r.text[r.pos + 1]? != some c then none
        else if c = '&' then some .intersection
        else if c = '-' then some .difference
        else if c = '~' then some .symmetricDifference
        else none
      match op with
      | some kind =>
        set { r with pos := r.pos + 2 }
        let (lhs, stack) := closeOperand (unionOf items) stack
        readClassLoop fuel [] (.operand kind lhs :: stack)
      | none => readClassLoop fuel ((← readClassRange) :: items) stack

/-- A bracket class, at its `[`. -/
def readClass : ReadM (Bool × ClassSet) := do
  readClassLoop (← get).fuel [] []

/-- The characters of a group name. -/
def nameChars (start : Nat) : Nat → ReadM Unit
  | 0 => pure ()
  | fuel + 1 => do
    let c ← cur
    if c = '>' then return
    if !isNameChar c ((← get).pos = start) then throw .invalidGroupName
    if !(← bump) then return
    nameChars start fuel

/-- A group name up to and past its `>`, remembered so that it cannot repeat. -/
def readGroupName : ReadM String := do
  if ← isEnd then throw .unexpectedEnd
  let start := (← get).pos
  nameChars start (← get).fuel
  let stop := (← get).pos
  if ← isEnd then throw .unexpectedEnd
  let _ ← bump
  let r ← get
  let name := String.ofList (r.text.extract start stop).toList
  if name.isEmpty then throw .emptyGroupName
  if r.names.contains name then throw .duplicateGroupName
  set { r with names := name :: r.names }
  return name

/-- The number of the next capture group. -/
def nextCapture : ReadM Nat := modifyGet fun r =>
  (r.captures + 1, { r with captures := r.captures + 1 })

/-- The items of an inline flag list, up to its `:` or `)`. -/
def readFlags : Nat → List FlagItem → Bool → ReadM (List FlagItem)
  | 0, _, _ => throw .unexpectedEnd
  | fuel + 1, items, afterNegation => do
    let c ← cur
    if c = ':' || c = ')' then
      if afterNegation then throw .danglingNegation
      return items.reverse
    let isNegation := c = '-'
    let item ← if isNegation then pure FlagItem.negation
      else do pure (FlagItem.flag (← someOr .invalidFlag (flagOf? c)))
    if items.contains item then
      throw (if isNegation then .repeatedNegation else .duplicateFlag)
    if !(← bump) then throw .unexpectedEnd
    readFlags fuel (item :: items) isNegation

/-- What a `(` opens: an inline flag list that acts on what follows, or a group. -/
def readGroupOpen : ReadM (List FlagItem ⊕ GroupKind) := do
  let _ ← bump
  skipSpace
  let r ← get
  if ["?=", "?!", "?<=", "?<!"].any (fun s => holdsAt r.text r.pos s.toList) then
    throw .lookAround
  if (← bumpIf "?P<") then
    let i ← nextCapture
    return .inr (.capture i (some (← readGroupName)))
  if (← bumpIf "?<") then
    let i ← nextCapture
    return .inr (.capture i (some (← readGroupName)))
  if (← bumpIf "?") then
    if ← isEnd then throw .unclosedGroup
    let flags ← readFlags (← get).fuel [] false
    let c ← cur
    let _ ← bump
    if c = ')' then
      if flags.isEmpty then throw .repetitionMissing
      return .inl flags
    return .inr (.nonCapturing flags)
  return .inr (.capture (← nextCapture) none)

/-- A group or alternation still open while reading. -/
inductive GroupFrame where
  /-- A group opened after the items `before` (latest first); `verbose` is the mode to
  restore when it closes. -/
  | group (before : List Tree) (kind : GroupKind) (verbose : Bool)
  /-- The branches of an alternation read so far (latest first). -/
  | alternation (branches : List Tree)

/-- The pattern that items (latest first) make together. -/
def concatOf : List Tree → Tree
  | [] => .empty
  | [t] => t
  | ts => .concat ts.reverse

/-- The item a repetition applies to: the last one, if there is one and it is no inline
flag list. -/
def lastItem : List Tree → ReadM (Tree × List Tree)
  | [] => throw .repetitionMissing
  | .empty :: _ => throw .repetitionMissing
  | .flags _ :: _ => throw .repetitionMissing
  | t :: rest => pure (t, rest)

/-- Reads a `?` after a repetition operator that has been passed: whether it is there. -/
def lazyMark (more : Bool) : ReadM Bool := do
  if !more then return false
  if (← cur) != '?' then return false
  let _ ← bump
  return true

/-- `?`, `*` or `+` applied to the last item, at the operator. -/
def repeatLast (items : List Tree) (min : Nat) (max : Option Nat) : ReadM (List Tree) := do
  let (t, rest) ← lastItem items
  let lazy ← lazyMark (← bump)
  return .repetition min max (!lazy) t :: rest

/-- Skips white space, stepping with `step`. -/
def skipWhite (step : ReadM Bool) : Nat → ReadM Unit
  | 0 => pure ()
  | fuel + 1 => do
    if ← isEnd then return
    if !isSpaceChar (← cur) then return
    let _ ← step
    skipWhite step fuel

/-- Decimal digits, blanks between them skipped in verbose mode. -/
def decimalDigits : Nat → List Char → ReadM (List Char)
  | 0, acc => return acc.reverse
  | fuel + 1, acc => do
    if ← isEnd then return acc.reverse
    let c ← cur
    if !c.isDigit then return acc.reverse
    let _ ← bumpAndSkip
    decimalDigits fuel (c :: acc)

/-- A decimal of a count, with white space around it. -/
def readDecimal : ReadM Nat := do
  skipWhite bump (← get).fuel
  let digits ← decimalDigits (← get).fuel []
  skipWhite bumpAndSkip (← get).fuel
  if digits.isEmpty then throw .emptyDecimal
  let n := decimalNumber digits
  if n > maxWord then throw .invalidDecimal
  return n

/-- A count `{n}`, `{n,}` or `{n,m}` applied to the last item, at its `{`. -/
def countedRepeat (items : List Tree) : ReadM (List Tree) := do
  let (t, rest) ← lastItem items
  if !(← bumpAndSkip) then throw .unclosedRepetitionCount
  let lo ← readDecimal
  if ← isEnd then throw .unclosedRepetitionCount
  let mut hi : Option Nat := some lo
  if (← cur) = ',' then
    if !(← bumpAndSkip) then throw .unclosedRepetitionCount
    if (← cur) != '}' then
      hi := some (← readDecimal)
    else
      hi := none
  if ← isEnd then throw .unclosedRepetitionCount
  if (← cur) != '}' then throw .unclosedRepetitionCount
  let lazy ← lazyMark (← bumpAndSkip)
  if let some n := hi then
    if n < lo then throw .invalidRepetitionCount
  return .repetition lo hi (!lazy) t :: rest

/-- The pattern when the text ends, from the open items and frames. -/
def finish (items : List Tree) : List GroupFrame → ReadM Tree
  | [] => return concatOf items
  | [.alternation branches] => return .alternation (concatOf items :: branches).reverse
  | _ => throw .unclosedGroup

/-- Reads the pattern: `items` are the items of the innermost open concatenation (latest
first) and `stack` the groups and alternations around it. -/
def readLoop : Nat → List Tree → List GroupFrame → ReadM Tree
  | 0, _, _ => throw .unexpectedEnd
  | fuel + 1, items, stack => do
    skipSpace
    if ← isEnd then return ← finish items stack
    match ← cur with
    | '(' =>
      match ← readGroupOpen with
      | .inl flags =>
        if let some v := flagState flags .verbose then
          modify fun r => { r with verbose := v }
        readLoop fuel (.flags flags :: items) stack
      | .inr kind =>
        let old := (← get).verbose
        let inside := match kind with
          | .nonCapturing flags => (flagState flags .verbose).getD old
          | .capture _ _ => old
        modify fun r => { r with verbose := inside }
        readLoop fuel [] (.group items kind old :: stack)
    | ')' =>
      let (before, kind, verbose, inner, rest) ← match stack with
        | .group before kind v :: rest => pure (before, kind, v, concatOf items, rest)
        | .alternation branches :: .group before kind v :: rest =>
          pure (before, kind, v, .alternation (concatOf items :: branches).reverse, rest)
        | _ => throw .unopenedGroup
      modify fun r => { r with verbose := verbose }
      let _ ← bump
      readLoop fuel (.group kind inner :: before) rest
    | '|' =>
      let stack := match stack with
        | .alternation branches :: rest => .alternation (concatOf items :: branches) :: rest
        | _ => .alternation [concatOf items] :: stack
      let _ ← bump
      readLoop fuel [] stack
    | '[' =>
      let (negated, set) ← readClass
      readLoop fuel (.bracket negated set :: items) stack
    | '?' => readLoop fuel (← repeatLast items 0 (some 1)) stack
    | '*' => readLoop fuel (← repeatLast items 0 none) stack
    | '+' => readLoop fuel (← repeatLast items 1 none) stack
    | '{' => readLoop fuel (← countedRepeat items) stack
    | _ => readLoop fuel ((← readPrimitive) :: items) stack

/-- Reads a pattern, refusing one that nests deeper than `nestLimit`. -/
def Tree.read (src : String) : Except PatternError Tree :=
  let text := src.toList.toArray
  match (readLoop (text.size + 2) [] []).run { text } with
  | .ok (t, _) => if t.nestsWithin nestLimit then .ok t else .error .nestTooDeep
  | .error e => .error e

end Pattern

end Conformance
