import Conformance.Pattern.Expr
import Conformance.Pattern.Utf8

/-!
# Patterns: the size of the automaton

A pattern is refused when the automaton built for it would take more than `sizeLimit`
bytes.  Two automata are built, one reading forward with its capture states and one
reading backward without them, and each must fit.  This module counts what building them
takes, and stops counting as soon as the limit is passed.

Each state takes `stateBytes`; on top of that a state with several byte ranges takes
`transitionBytes` for each, and a state that branches takes `idBytes` for each branch.
The construction, part by part:

* a literal is one state per byte; an assertion, the empty pattern, a capture bound and
  the final match are one state each;
* a class of ASCII characters (every byte class among them) is a state with all its
  ranges and an empty end state;
* any other class is compiled through its UTF-8 byte-range sequences.  Forward, common
  prefixes of consecutive sequences are shared and finished states are looked up by their
  ranges in a table of `tableSlots` slots, where a later state may take the slot of an
  earlier one; backward, a branching state leads to the sequences, and each byte-range
  state is looked up by its range and successor in a table of `suffixSlots` slots.  Both
  tables start empty for each class;
* an alternation of literals only is built as a trie with one state per node and one per
  group of edges; other alternations branch to their branches;
* repetitions are built from copies of what they repeat: `?` branches around one copy,
  `{n}` is `n` copies, `{n,m}` adds `m - n` optional copies, and an unbounded repetition
  loops back through a branching state (twice, for a part that can match the empty text
  and repeats from zero);
* a forward automaton that is not anchored at the start begins with a loop over any
  byte; a backward one that is not anchored at the end likewise.

The table slots are found by a 64-bit FNV-1a hash of the ranges and successors, so the
count depends on the numbers of the states, which are given in order of creation.
-/

namespace Conformance

namespace Pattern

open Text

/-- The bytes a state takes. -/
def stateBytes : Nat := 32

/-- The bytes each byte range of a state takes. -/
def transitionBytes : Nat := 8

/-- The bytes each branch of a branching state takes. -/
def idBytes : Nat := 4

/-- The most bytes an automaton may take. -/
def sizeLimit : Nat := 10 * 1048576

/-- The slots of the table of finished states in forward classes. -/
def tableSlots : Nat := 10000

/-- The slots of the table of byte-range states in backward classes. -/
def suffixSlots : Nat := 1000

/-- An edge of a finished state: a byte range and the state it leads to. -/
abbrev Edge := Nat × Nat × Nat

/-- What building an automaton has counted so far. -/
structure Build where
  /-- Whether the automaton reads backward (and has no capture states). -/
  backward : Bool
  /-- The number of states so far; the next state gets this number. -/
  states : Nat := 0
  /-- The bytes taken beyond `stateBytes` per state. -/
  extra : Nat := 0
  /-- Which class is being built: table entries of earlier classes do not count. -/
  generation : Nat := 0
  /-- Finished forward states: generation, edges and state number. -/
  table : Array (Option (Nat × Array Edge × Nat)) := Array.replicate tableSlots none
  /-- Backward byte-range states: generation, successor and range, and state number. -/
  suffixes : Array (Option (Nat × Edge × Nat)) := Array.replicate suffixSlots none

/-- Building an automaton; the error means the limit is passed. -/
abbrev BuildM := EStateM Unit Build

/-- The bytes taken so far. -/
def Build.size (b : Build) : Nat := b.states * stateBytes + b.extra

/-- Adds a state with `extra` bytes on top; its number. -/
def addState (extra : Nat) : BuildM Nat := do
  let b ← get
  set { b with states := b.states + 1, extra := b.extra + extra }
  if (← get).size > sizeLimit then throw ()
  return b.states

/-- Adds a state that ends a part. -/
def addEnd : BuildM Bool := do
  let _ ← addState 0
  return false

/-- Adds a branch to a branching state, or links a state that does not branch. -/
def link (branching : Bool) : BuildM Unit := do
  if branching then
    modify fun b => { b with extra := b.extra + idBytes }
    if (← get).size > sizeLimit then throw ()

/-- The FNV-1a offset basis. -/
def fnvBasis : UInt64 := 14695981039346656037

/-- The FNV-1a prime. -/
def fnvPrime : UInt64 := 1099511628211

/-- One step of the FNV-1a hash. -/
def fnvStep (h : UInt64) (x : Nat) : UInt64 := (h ^^^ x.toUInt64) * fnvPrime

/-- The hash of edges. -/
def hashEdges (edges : Array Edge) : UInt64 :=
  edges.foldl (fun h (lo, hi, next) => fnvStep (fnvStep (fnvStep h lo) hi) next) fnvBasis

/-- A part of the automaton: whether its end state branches, so that linking it on adds a
branch. -/
abbrev Part := Bool

/-- A class of ASCII characters: a state with all its ranges, and its end. -/
def asciiClassPart (ranges : Nat) : BuildM Part := do
  let _ ← addState 0
  let _ ← addState (ranges * transitionBytes)
  return false

/-- A state not yet finished while compiling a forward class: its finished edges and the
range of its last edge, whose successor is still open. -/
structure Pending where
  edges : Array Edge := #[]
  last : Option (Nat × Nat) := none
deriving Inhabited

/-- The pending state with its last edge led to `next`. -/
def Pending.close (p : Pending) (next : Nat) : Array Edge :=
  match p.last with
  | some (lo, hi) => p.edges.push (lo, hi, next)
  | none => p.edges

/-- The state with the given edges: an equal one from the table, or a new one. -/
def finishState (edges : Array Edge) : BuildM Nat := do
  let b ← get
  let slot := (hashEdges edges).toNat % tableSlots
  match b.table[slot]? with
  | some (some (g, key, id)) =>
    if g = b.generation && key == edges then return id
  | _ => pure ()
  let id ← addState (edges.size * transitionBytes)
  modify fun b => { b with table := b.table.set! slot (some (b.generation, edges, id)) }
  return id

/-- Finishes the pending states above the first `keep + 1`, deepest first, leading the
last edge of each to the state finished before it (the first to `target`). -/
def finishFrom (target keep : Nat) (pending : Array Pending) : BuildM (Array Pending) := do
  let mut pending := pending
  let mut next := target
  for _ in [0:pending.size] do
    if pending.size ≤ keep + 1 then break
    let top := (pending.back?.getD {})
    pending := pending.pop
    next ← finishState (top.close next)
  let top := (pending.back?.getD {})
  return pending.pop.push { edges := top.close next }

/-- How many leading ranges of a sequence equal the open last edges of the pending
states. -/
def sharedRanges (seq : List (Nat × Nat)) (pending : Array Pending) : Nat :=
  ((seq.zip pending.toList).takeWhile fun (r, p) => p.last == some r).length

/-- Adds a byte-range sequence to the pending states. -/
def addSequence (target : Nat) (pending : Array Pending) (seq : List (Nat × Nat)) :
    BuildM (Array Pending) := do
  let keep := sharedRanges seq pending
  let pending ← finishFrom target keep pending
  match seq.drop keep with
  | [] => return pending
  | first :: rest =>
    let top := (pending.back?.getD {})
    let pending := pending.pop.push { top with last := some first }
    return rest.foldl (fun ps r => ps.push { last := some r }) pending

/-- A class compiled forward through its byte-range sequences. -/
def forwardClassPart (set : Ranges) : BuildM Part := do
  let target ← addState 0
  modify fun b => { b with generation := b.generation + 1 }
  let mut pending : Array Pending := #[{}]
  for (lo, hi) in set.toList do
    for seq in utf8Sequences lo hi do
      pending ← addSequence target pending seq
  pending ← finishFrom target 0 pending
  let _ ← finishState (pending.back?.getD {}).edges
  return false

/-- The state for a byte range leading to `next`: an equal one from the table, or a new
one. -/
def suffixState (next lo hi : Nat) : BuildM Nat := do
  let b ← get
  let key : Edge := (next, lo, hi)
  let slot := (fnvStep (fnvStep (fnvStep fnvBasis next) lo) hi).toNat % suffixSlots
  match b.suffixes[slot]? with
  | some (some (g, k, id)) =>
    if g = b.generation && k == key then return id
  | _ => pure ()
  let id ← addState 0
  modify fun b => { b with suffixes := b.suffixes.set! slot (some (b.generation, key, id)) }
  return id

/-- A class compiled backward: a branching state to each sequence, read from its last byte
range to its first. -/
def backwardClassPart (set : Ranges) : BuildM Part := do
  let _ ← addState 0
  let altEnd ← addState 0
  modify fun b => { b with generation := b.generation + 1 }
  for (lo, hi) in set.toList do
    for seq in utf8Sequences lo hi do
      let mut next := altEnd
      for (a, z) in seq do
        next ← suffixState next a z
      link true
  return false

/-- A class of characters. -/
def classPart (set : Ranges) (bytes : Bool) : BuildM Part := do
  if bytes || set.toList.all (fun (_, hi) => hi ≤ 0x7F) then
    asciiClassPart set.toList.length
  else if (← get).backward then backwardClassPart set
  else forwardClassPart set

/-- A literal: one state per byte. -/
def literalPart (cs : List Char) : BuildM Part := do
  for _ in [0:utf8Length cs] do
    let _ ← addState 0
  return false

/-- Parts one after another, each linked to the next. -/
def chainParts (first : Part) : List (BuildM Part) → BuildM Part
  | [] => pure first
  | p :: rest => do
    let next ← p
    link first
    chainParts next rest

/-- Parts in the order the automaton reads them: backward automata read the last first. -/
def concatParts (parts : List (BuildM Part)) : BuildM Part := do
  let parts := if (← get).backward then parts.reverse else parts
  match parts with
  | [] => addEnd
  | p :: rest => chainParts (← p) rest

/-- `n` copies of a part, one after another. -/
def copies (sub : BuildM Part) (n : Nat) : BuildM Part := do
  if n = 0 then return ← addEnd
  let mut last ← sub
  for _ in [1:n] do
    let next ← sub
    link last
    last := next
  return last

/-- `?`: a branching state around one copy. -/
def optionalPart (sub : BuildM Part) : BuildM Part := do
  let _ ← addState 0
  let part ← sub
  let _ ← addState 0
  link true
  link true
  link part
  return false

/-- At least `n` copies. -/
def atLeastPart (sub : BuildM Part) (subMinLen : Option Nat) (n : Nat) : BuildM Part := do
  if n = 0 then
    if subMinLen.any (· > 0) then
      let _ ← addState 0
      let part ← sub
      link true
      link part
      return true
    let part ← sub
    let _ ← addState 0
    link part
    link true
    let _ ← addState 0
    let _ ← addState 0
    link true
    link true
    link true
    return false
  if n = 1 then
    let part ← sub
    let _ ← addState 0
    link part
    link true
    return true
  let front ← copies sub (n - 1)
  let last ← sub
  let _ ← addState 0
  link front
  link last
  link true
  return true

/-- From `min` to `max` copies: `min` copies, then `max - min` optional ones that may each
skip to the end. -/
def boundedPart (sub : BuildM Part) (min max : Nat) : BuildM Part := do
  let front ← copies sub min
  let _ ← addState 0
  let mut previous := front
  for _ in [min:max] do
    let _ ← addState 0
    let part ← sub
    link previous
    link true
    link true
    previous := part
  link previous
  return false

/-- A repetition of a part. -/
def repetitionPart (sub : BuildM Part) (subMinLen : Option Nat) (min : Nat) :
    Option Nat → BuildM Part
  | none => atLeastPart sub subMinLen min
  | some max =>
    if min = 0 && max = 1 then optionalPart sub
    else if min = max then copies sub min
    else boundedPart sub min max

/-- A capture group: two bounding states forward, nothing backward. -/
def capturePart (sub : BuildM Part) : BuildM Part := do
  if (← get).backward then return ← sub
  let _ ← addState 0
  let part ← sub
  let _ ← addState 0
  link false
  link part
  return false

/-- Branches: a branching state to each, and a common end state.  No branch is a state
that never matches; one branch is just itself. -/
def alternationParts : List (BuildM Part) → BuildM Part
  | [] => addEnd
  | [p] => p
  | p :: q :: rest => do
    let first ← p
    let second ← q
    let _ ← addState 0
    let _ ← addState 0
    link true
    link first
    link true
    link second
    for r in rest do
      let part ← r
      link true
      link part
    return false

/-- A node of a trie of literals: its edges (a byte and the node it leads to) and where
the literals that end here cut them into groups. -/
structure TrieNode where
  edges : Array (Nat × Nat) := #[]
  cuts : Array (Nat × Nat) := #[]

/-- Where the edges that may still grow start: after the last cut. -/
def TrieNode.activeStart (n : TrieNode) : Nat := (n.cuts.back?.map Prod.snd).getD 0

/-- The groups of edges: those between cuts, then the active ones. -/
def TrieNode.groups (n : TrieNode) : List (List (Nat × Nat)) :=
  n.cuts.toList.map (fun (a, z) => (n.edges.extract a z).toList) ++
    [(n.edges.extract n.activeStart n.edges.size).toList]

/-- Follows the edge with byte `byte` from `node` among its active edges, adding a new node
if there is none (edges stay sorted by byte). -/
def trieStep (trie : Array TrieNode) (node byte : Nat) : Array TrieNode × Nat :=
  let n := trie.getD node {}
  let start := n.activeStart
  let active := (n.edges.extract start n.edges.size).toList
  match active.find? (·.1 == byte) with
  | some (_, next) => (trie, next)
  | none =>
    let place := start + (active.filter (·.1 < byte)).length
    let fresh := trie.size
    let n := { n with edges := n.edges.insertIdxIfInBounds place (byte, fresh) }
    ((trie.set! node n).push {}, fresh)

/-- Adds a literal's bytes to the trie, marking where it ends. -/
def trieAdd (trie : Array TrieNode) (bytes : List Nat) : Array TrieNode :=
  let (trie, last) := bytes.foldl (fun (t, node) b => trieStep t node b) (trie, 0)
  let n := trie.getD last {}
  if n.edges.isEmpty && !n.cuts.isEmpty then trie
  else trie.set! last { n with cuts := n.cuts.push (n.activeStart, n.edges.size) }

/-- Builds the states of a trie node: its children first, then a state for each nonempty
group of edges (a plain byte state for a single edge), then a branching state to those
and, after the first group, to the end state.  `fuel` bounds the depth. -/
def trieNodePart (trie : Array TrieNode) : Nat → Nat → BuildM Unit
  | 0, _ => pure ()
  | fuel + 1, node => do
    let mut branches := 0
    let mut first := true
    for group in (trie.getD node {}).groups do
      if !first then branches := branches + 1
      first := false
      for (_, next) in group do
        if !(trie.getD next {}).edges.isEmpty then trieNodePart trie fuel next
      if group.length = 1 then
        let _ ← addState 0
        branches := branches + 1
      else if group.length > 1 then
        let _ ← addState (group.length * transitionBytes)
        branches := branches + 1
    let _ ← addState (branches * idBytes)

/-- An alternation of literals, built as a trie of their bytes (backward automata read
them from the end). -/
def triePart (literals : List (List Char)) : BuildM Part := do
  let backward := (← get).backward
  let words := literals.map fun cs =>
    let bytes := cs.flatMap fun c => utf8Bytes c.toNat
    if backward then bytes.reverse else bytes
  let trie := words.foldl trieAdd #[{}]
  let _ ← addState 0
  trieNodePart trie (trie.size + 1) 0
  return false

/-- The literals of branches that are all literals. -/
def literalBranches : List Expr → Option (List (List Char))
  | [] => some []
  | .literal cs :: rest => (literalBranches rest).map (cs :: ·)
  | _ => none

mutual

/-- The part of the automaton for an expression. -/
def Expr.part : Expr → BuildM Part
  | .empty => addEnd
  | .literal cs => literalPart cs
  | .charClass set bytes => classPart set bytes
  | .look _ => addEnd
  | .repetition min max _ sub => repetitionPart sub.part sub.minLen min max
  | .capture _ _ sub => capturePart sub.part
  | .concat items => concatParts (Expr.parts items)
  | .alternation branches =>
    match literalBranches branches with
    | some (l₁ :: l₂ :: ls) => triePart (l₁ :: l₂ :: ls)
    | _ => alternationParts (Expr.parts branches)

/-- The parts of a list of expressions. -/
def Expr.parts : List Expr → List (BuildM Part)
  | [] => []
  | e :: es => e.part :: Expr.parts es

end

/-- The whole automaton in one direction: a loop over any byte in front unless anchored,
the expression as capture group 0, and the match state. -/
def Expr.automaton (e : Expr) (anchored : Bool) : BuildM Unit := do
  let front ← if anchored then addEnd else atLeastPart (asciiClassPart 1) (some 1) 0
  let body ← capturePart e.part
  let _ ← addState 0
  link body
  link front

/-- Whether both automata of an expression fit in `sizeLimit`. -/
def Expr.fitsSizeLimit (e : Expr) : Bool :=
  let fits (backward anchored : Bool) :=
    match (e.automaton anchored).run { backward } with
    | .ok _ _ => true
    | .error _ _ => false
  fits false (e.startsWithLook .textStart) && fits true (e.endsWithLook .textEnd)

end Pattern

end Conformance
