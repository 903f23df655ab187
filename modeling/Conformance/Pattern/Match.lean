import Conformance.Pattern.Read
import Conformance.Pattern.Resolve
import Conformance.Pattern.Footprint

/-!
# Patterns: matching

A pattern is read, its flags are applied, and it is refused if its automaton would be
too large; then the expression is compiled into a small program of instructions (read a
character of a set, branch, check an assertion, accept), and the program is run over the
text by keeping the set of instructions that some match attempt can be at, one
character at a time, with a new attempt starting at every position.  A text matches
when some attempt reaches `accept`; nothing is ever retried, so running takes time
proportional to the text times the program.
-/

namespace Conformance

namespace Pattern

open Text

/-- One instruction of a compiled pattern. -/
inductive Inst where
  /-- Read one character of the set, then go on at `next`. -/
  | chars (set : Ranges) (next : Nat)
  /-- Go on at both `a` and `b`. -/
  | split (a b : Nat)
  /-- Go on at `next` if the assertion holds here. -/
  | look (l : Look) (next : Nat)
  | accept
deriving Repr, Inhabited

/-- A program under construction: instructions are added at the end, and a
placeholder may be filled in later. -/
abbrev Program := Array Inst

/-- Adds an instruction and returns its position. -/
def Program.emit (p : Program) (i : Inst) : Program × Nat :=
  let place := p.size
  (p.push i, place)

/-- `count` nested optional copies of a part in front of `start`, each of which may
skip to `exit`; `build p next` compiles one copy that goes on at `next`. -/
def compileOptional (build : Program → Nat → Program × Nat) (p : Program) (start exit : Nat) :
    Nat → Program × Nat
  | 0 => (p, start)
  | k + 1 =>
    let (p, inner) := compileOptional build p start exit k
    let (p, bodyStart) := build p inner
    p.emit (.split bodyStart exit)

/-- `count` copies of a part in front of `start`. -/
def compileCopies (build : Program → Nat → Program × Nat) (p : Program) (start : Nat) :
    Nat → Program × Nat
  | 0 => (p, start)
  | k + 1 =>
    let (p, inner) := compileCopies build p start k
    build p inner

/-- A loop around a part: a split whose first way runs the part and comes back. -/
def compileLoop (build : Program → Nat → Program × Nat) (p : Program) (next : Nat) :
    Program × Nat :=
  let (p, loop) := p.emit (.split 0 0)
  let (p, bodyStart) := build p loop
  (p.set! loop (.split bodyStart next), loop)

/-- The characters of a literal, each read in turn, in front of `next`. -/
def compileChars (p : Program) (next : Nat) : List Char → Program × Nat
  | [] => (p, next)
  | c :: rest =>
    let (p, after) := compileChars p next rest
    p.emit (.chars (Ranges.single c.toNat) after)

mutual

/-- Compiles an expression so that after it the program goes on at `next`; returns the
program and the expression's entry. -/
def compileExpr (p : Program) (next : Nat) : Expr → Program × Nat
  | .empty => (p, next)
  | .literal cs => compileChars p next cs
  | .charClass set _ => p.emit (.chars set next)
  | .look l => p.emit (.look l next)
  | .capture _ _ sub => compileExpr p next sub
  | .concat items => compileSeq p next items
  | .alternation branches => compileAlt p next branches
  | .repetition lo hi _ sub =>
    -- the optional tail first, then `lo` copies in front of it
    let (p, tail) := match hi with
      | none => compileLoop (fun p n => compileExpr p n sub) p next
      | some hi => compileOptional (fun p n => compileExpr p n sub) p next next (hi - lo)
    compileCopies (fun p n => compileExpr p n sub) p tail lo

/-- Compiles items in order: the later ones first, so that each knows where to go on. -/
def compileSeq (p : Program) (next : Nat) : List Expr → Program × Nat
  | [] => (p, next)
  | e :: rest =>
    let (p, start) := compileSeq p next rest
    compileExpr p start e

/-- Compiles alternatives as a chain of splits, the first alternative preferred. -/
def compileAlt (p : Program) (next : Nat) : List Expr → Program × Nat
  | [] => (p, next)
  | [e] => compileExpr p next e
  | e :: rest =>
    let (p, first) := compileExpr p next e
    let (p, others) := compileAlt p next rest
    p.emit (.split first others)

end

/-- A compiled pattern: its program and where it starts. -/
structure Compiled where
  program : Program
  start : Nat

/-- Compiles an expression, ending in `accept`. -/
def Compiled.ofExpr (e : Expr) : Compiled :=
  let (p, acceptAt) := Program.emit #[] .accept
  let (p, start) := compileExpr p acceptAt e
  ⟨p, start⟩

/-- The ASCII word characters. -/
def asciiWord : Ranges := AsciiClass.word.ranges

/-- Whether a character is a word character, in the Unicode or the ASCII sense. -/
def wordAt (ascii : Bool) : Option Char → Bool
  | none => false
  | some c => if ascii then asciiWord.contains c.toNat else isWordChar c

/-- Whether an assertion holds between the characters `before` and `after`. -/
def Look.holds (before after : Option Char) : Look → Bool
  | .textStart => before.isNone
  | .textEnd => after.isNone
  | .lineStart => before.isNone || before == some '\n'
  | .lineEnd => after.isNone || after == some '\n'
  | .lineStartCRLF =>
    before.isNone || before == some '\n' || (before == some '\r' && after != some '\n')
  | .lineEndCRLF =>
    after.isNone || after == some '\r' || (after == some '\n' && before != some '\r')
  | .wordBoundary a => wordAt a before != wordAt a after
  | .notWordBoundary a => wordAt a before == wordAt a after
  | .wordStart a => !wordAt a before && wordAt a after
  | .wordEnd a => wordAt a before && !wordAt a after
  | .wordStartHalf a => !wordAt a before
  | .wordEndHalf a => !wordAt a after

/-- The states reachable from `todo` without reading, added to `reached`: splits are
followed, assertions checked between `before` and `after`, and `seen` marks the states
already reached.  Each state is expanded at most once, so `fuel` (three times the
program size and the length of `todo`) suffices. -/
def Compiled.closure (c : Compiled) (before after : Option Char) :
    Nat → List Nat → Array Bool → List Nat → List Nat
  | 0, _, _, reached => reached
  | _, [], _, reached => reached
  | fuel + 1, pc :: todo, seen, reached =>
    if seen.getD pc true then c.closure before after fuel todo seen reached
    else
      let seen := seen.set! pc true
      let reached := pc :: reached
      match c.program[pc]? with
      | some (.split a b) => c.closure before after fuel (a :: b :: todo) seen reached
      | some (.look l next) =>
        if l.holds before after then c.closure before after fuel (next :: todo) seen reached
        else c.closure before after fuel todo seen reached
      | _ => c.closure before after fuel todo seen reached

/-- The states reachable without reading from the given ones and a new attempt. -/
def Compiled.reach (c : Compiled) (before after : Option Char) (states : List Nat) :
    List Nat :=
  let todo := c.start :: states
  c.closure before after (3 * c.program.size + todo.length + 1) todo
    (Array.replicate c.program.size false) []

/-- Whether a state set holds `accept`. -/
def Compiled.accepts (c : Compiled) (states : List Nat) : Bool :=
  states.any fun pc =>
    match (c.program[pc]? : Option Inst) with
    | some Inst.accept => true
    | _ => false

/-- The states after reading `ch` from the given states. -/
def Compiled.step (c : Compiled) (states : List Nat) (ch : Char) : List Nat :=
  states.filterMap fun pc =>
    match (c.program[pc]? : Option Inst) with
    | some (Inst.chars set next) => if set.contains ch.toNat then some next else none
    | _ => none

/-- Runs the program over the rest of the text; `before` is the character just read
and `states` the states reached without the new attempt that starts here. -/
def Compiled.run (c : Compiled) (before : Option Char) (states : List Nat) : List Char → Bool
  | [] => c.accepts (c.reach before none states)
  | ch :: rest =>
    let here := c.reach before (some ch) states
    if c.accepts here then true else c.run (some ch) (c.step here ch) rest

/-- Whether the pattern matches somewhere in the text. -/
def Compiled.isMatch (c : Compiled) (s : String) : Bool :=
  c.run none [] s.toList

/-- Reads and compiles a pattern under the given starting flags: refused if it is not
written by the grammar, if the flags forbid what it asks for, or if its automaton would
be too large. -/
def compile (f : Flags) (src : String) : Except PatternError Compiled := do
  let tree ← Tree.read src
  let (e, _) ← tree.resolve f
  if !e.fitsSizeLimit then throw .tooLarge
  return Compiled.ofExpr e

end Pattern

end Conformance
