import Conformance.Pattern.Tree
import Conformance.Pattern.Expr
import Conformance.Pattern.Error
import Conformance.Text.Classes
import Conformance.Text.CaseFold

/-!
# Patterns: applying the flags

Turns the written form of a pattern into an expression, applying the flags in force at
each point.  The flags start as the caller sets them; an inline flag list changes them
for everything after it up to the end of the enclosing group, alternatives after it
included, and a group with flags `(?flags: )` changes them inside it only.

With Unicode on (the default):

* a case-insensitive literal is the class of its simple case variants;
* `.` is every character but a line feed (and a carriage return with `R`), or every
  character with `s`;
* `\d`, `\s` and `\w` are Unicode's decimal digits, white space and word characters, and
  are not widened by case;
* a bracket class, an ASCII class `[:name:]` and a property class `\p{…}` are first closed
  under case (with `i`) and then negated; the operands of `&&`, `--` and `~~` are closed
  under case before the operation.

With Unicode off, classes are byte classes of ASCII characters: case is ASCII case, and
`.`, a negated class, `\D`, `\S`, `\W`, `[:^name:]`, `\p`, a character outside ASCII in a
class or with case ignored, and a byte escape `\x80` to `\xFF` are refused, since they
could match bytes outside ASCII or need case rules beyond ASCII.
-/

namespace Conformance

namespace Pattern

open Text

/-- The flags in force at a point of a pattern. -/
structure Flags where
  caseless : Bool := false
  multiLine : Bool := false
  dotAll : Bool := false
  swapGreed : Bool := false
  unicode : Bool := true
  crlf : Bool := false
deriving Repr, DecidableEq, Inhabited

namespace Flags

/-- Sets one flag. -/
def setFlag (f : Flags) (b : Bool) : Flag → Flags
  | .caseless => { f with caseless := b }
  | .multiLine => { f with multiLine := b }
  | .dotAll => { f with dotAll := b }
  | .swapGreed => { f with swapGreed := b }
  | .unicode => { f with unicode := b }
  | .crlf => { f with crlf := b }
  | .verbose => f

/-- The flags after an inline flag list: the flags it names before its `-` are set, those
after it are cleared, and the others stay. -/
def apply (f : Flags) (items : List FlagItem) : Flags :=
  go f true items
where
  go (f : Flags) (enable : Bool) : List FlagItem → Flags
    | [] => f
    | .negation :: rest => go f false rest
    | .flag g :: rest => go (f.setFlag enable g) enable rest

end Flags

/-- The bytes of ASCII, and the characters a byte class may hold. -/
def asciiRanges : Ranges := Ranges.interval 0 0x7F

/-- Whether a set holds only ASCII characters. -/
def isAsciiSet (r : Ranges) : Bool := r.toList.all fun (_, hi) => hi ≤ 0x7F

/-- A set closed under ASCII case: each ASCII letter with its other case. -/
def asciiFoldCase (r : Ranges) : Ranges :=
  let lower := r.inter (Ranges.interval 97 122)
  let upper := r.inter (Ranges.interval 65 90)
  (r.union (Ranges.ofList (lower.toList.map fun (a, b) => (a - 32, b - 32)))).union
    (Ranges.ofList (upper.toList.map fun (a, b) => (a + 32, b + 32)))

/-- The bytes not in a byte set. -/
def byteComplement (r : Ranges) : Ranges := (Ranges.interval 0 0xFF).diff r

/-- The characters of an ASCII class. -/
def AsciiClass.ranges : AsciiClass → Ranges
  | .alnum => Ranges.ofList [(48, 57), (65, 90), (97, 122)]
  | .alpha => Ranges.ofList [(65, 90), (97, 122)]
  | .ascii => asciiRanges
  | .blank => Ranges.ofList [(9, 9), (32, 32)]
  | .cntrl => Ranges.ofList [(0, 31), (127, 127)]
  | .digit => Ranges.interval 48 57
  | .graph => Ranges.interval 33 126
  | .lower => Ranges.interval 97 122
  | .print => Ranges.interval 32 126
  | .punct => Ranges.ofList [(33, 47), (58, 64), (91, 96), (123, 126)]
  | .space => Ranges.ofList [(9, 13), (32, 32)]
  | .upper => Ranges.interval 65 90
  | .word => Ranges.ofList [(48, 57), (65, 90), (95, 95), (97, 122)]
  | .xdigit => Ranges.ofList [(48, 57), (65, 70), (97, 102)]

/-- The characters of `\d`, `\s` or `\w`: Unicode's, or ASCII's with Unicode off. -/
def PerlClass.ranges (unicode : Bool) : PerlClass → Ranges
  | .digit => if unicode then digitRanges else AsciiClass.digit.ranges
  | .space => if unicode then spaceRanges else AsciiClass.space.ranges
  | .word => if unicode then wordRanges else AsciiClass.word.ranges

namespace Flags

/-- A set closed under case when the flags ask for it. -/
def fold (f : Flags) (r : Ranges) : Ranges :=
  if !f.caseless then r else if f.unicode then r.foldCase else asciiFoldCase r

/-- A class closed under case when asked for, then negated when asked for; with Unicode
off, refused unless it holds ASCII only. -/
def foldAndNegate (f : Flags) (negated : Bool) (r : Ranges) : Except PatternError Ranges :=
  let r := f.fold r
  if f.unicode then .ok (if negated then r.complement else r)
  else
    let r := if negated then byteComplement r else r
    if isAsciiSet r then .ok r else .error .invalidUtf8

/-- The characters of a property class. -/
def property (f : Flags) (q : Unicode.Query) (negated : Bool) : Except PatternError Ranges :=
  if !f.unicode then .error .unicodeNotAllowed
  else
    match q.ranges with
    | .ok r => f.foldAndNegate negated r
    | .error .propertyNotFound => .error .propertyNotFound
    | .error .valueNotFound => .error .propertyValueNotFound

/-- The characters of `\d`, `\s`, `\w` or their negations; with Unicode off a negation is
refused. -/
def perl (f : Flags) (c : PerlClass) (negated : Bool) : Except PatternError Ranges :=
  let r := c.ranges f.unicode
  if f.unicode then .ok (if negated then r.complement else r)
  else if negated then .error .invalidUtf8
  else .ok r

/-- The characters of an ASCII class inside a bracket class. -/
def ascii (f : Flags) (c : AsciiClass) (negated : Bool) : Except PatternError Ranges :=
  if f.unicode then f.foldAndNegate negated c.ranges
  else if negated then .error .invalidUtf8
  else .ok c.ranges

/-- The code point of a literal inside a bracket class; with Unicode off it must be
ASCII. -/
def classLiteral (f : Flags) (l : Literal) : Except PatternError Nat :=
  if f.unicode || l.char.toNat ≤ 0x7F then .ok l.char.toNat
  else if l.byteEscape then .error .invalidUtf8
  else .error .unicodeNotAllowed

end Flags

/-- The result of a set operation. -/
def SetOp.apply : SetOp → Ranges → Ranges → Ranges
  | .intersection, a, b => a.inter b
  | .difference, a, b => a.diff b
  | .symmetricDifference, a, b => a.symmDiff b

mutual

/-- The characters of the contents of a bracket class. -/
def ClassSet.resolve (f : Flags) : ClassSet → Except PatternError Ranges
  | .empty => .ok Ranges.empty
  | .literal l => (f.classLiteral l).map Ranges.single
  | .range lo hi => do
    let a ← f.classLiteral lo
    let b ← f.classLiteral hi
    pure (Ranges.interval a b)
  | .ascii c negated => f.ascii c negated
  | .property q negated => f.property q negated
  | .perl c negated => f.perl c negated
  | .bracketed negated inner => do f.foldAndNegate negated (← inner.resolve f)
  | .union items => ClassSet.resolveAll f items
  | .op kind lhs rhs => do
    let a ← lhs.resolve f
    let b ← rhs.resolve f
    pure (kind.apply (f.fold a) (f.fold b))

/-- The characters of items side by side. -/
def ClassSet.resolveAll (f : Flags) : List ClassSet → Except PatternError Ranges
  | [] => .ok Ranges.empty
  | c :: rest => do
    let a ← c.resolve f
    let b ← ClassSet.resolveAll f rest
    pure (a.union b)

end

namespace Flags

/-- The class that a set makes under the flags. -/
def classOf (f : Flags) (r : Ranges) : Expr := Expr.ofClass r !f.unicode

/-- A literal character: with case ignored, the class of its case variants.  With Unicode
off, a byte escape above ASCII is refused, and so is any character outside ASCII when case
is ignored, since ASCII case is all that can be applied then. -/
def literal (f : Flags) (l : Literal) : Except PatternError Expr :=
  let c := l.char
  if !f.unicode && l.byteEscape && c.toNat > 0x7F then .error .invalidUtf8
  else if !f.caseless then .ok (.literal [c])
  else if f.unicode then
    let variants := (Ranges.single c.toNat).foldCase
    .ok (if variants == Ranges.single c.toNat then .literal [c] else Expr.ofClass variants false)
  else if c.toNat ≤ 0x7F then .ok (Expr.ofClass (asciiFoldCase (Ranges.single c.toNat)) true)
  else .error .unicodeNotAllowed

/-- `.` under the flags. -/
def dot (f : Flags) : Except PatternError Expr :=
  if !f.unicode then .error .invalidUtf8
  else if f.dotAll then .ok (Expr.ofClass (Ranges.interval 0 maxCodePoint) false)
  else if f.crlf then .ok (Expr.ofClass (Ranges.ofList [(10, 10), (13, 13)]).complement false)
  else .ok (Expr.ofClass (Ranges.single 10).complement false)

/-- The assertion that a written assertion makes under the flags. -/
def look (f : Flags) : Assertion → Look
  | .startLine =>
    if f.multiLine then (if f.crlf then .lineStartCRLF else .lineStart) else .textStart
  | .endLine =>
    if f.multiLine then (if f.crlf then .lineEndCRLF else .lineEnd) else .textEnd
  | .startText => .textStart
  | .endText => .textEnd
  | .wordBoundary => .wordBoundary !f.unicode
  | .notWordBoundary => .notWordBoundary !f.unicode
  | .wordStart => .wordStart !f.unicode
  | .wordEnd => .wordEnd !f.unicode
  | .wordStartHalf => .wordStartHalf !f.unicode
  | .wordEndHalf => .wordEndHalf !f.unicode

end Flags

mutual

/-- The expression of a written pattern under the flags `f`, with the flags in force after
it. -/
def Tree.resolve (f : Flags) : Tree → Except PatternError (Expr × Flags)
  | .empty => .ok (.empty, f)
  | .flags items => .ok (.empty, f.apply items)
  | .literal l => do pure (← f.literal l, f)
  | .dot => do pure (← f.dot, f)
  | .assertion a => .ok (.look (f.look a), f)
  | .property q negated => do pure (f.classOf (← f.property q negated), f)
  | .perl c negated => do pure (f.classOf (← f.perl c negated), f)
  | .bracket negated set => do
    pure (f.classOf (← f.foldAndNegate negated (← set.resolve f)), f)
  | .repetition min max greedy sub => do
    let (e, g) ← sub.resolve f
    pure (Expr.repeatOf min max (if g.swapGreed then !greedy else greedy) e, g)
  | .group kind sub => do
    let inside := match kind with
      | .nonCapturing items => f.apply items
      | .capture _ _ => f
    let (e, _) ← sub.resolve inside
    match kind with
    | .capture index name => pure (.capture index name e, f)
    | .nonCapturing _ => pure (e, f)
  | .concat items => do
    let (es, g) ← Tree.resolveSeq f items
    pure (Expr.concatOf es, g)
  | .alternation branches => do
    let (es, g) ← Tree.resolveSeq f branches
    pure (Expr.alternationOf es, g)

/-- The expressions of patterns in order, each under the flags the one before leaves. -/
def Tree.resolveSeq (f : Flags) : List Tree → Except PatternError (List Expr × Flags)
  | [] => .ok ([], f)
  | t :: rest => do
    let (e, g) ← t.resolve f
    let (es, h) ← Tree.resolveSeq g rest
    pure (e :: es, h)

end

end Pattern

end Conformance
