import Conformance.Text.Ranges

/-!
# Patterns: expressions

A pattern with its flags applied: literal character strings, classes of characters,
assertions, repetitions, capture groups, concatenations and alternations.  Expressions are
built by smart constructors that keep one shape for each meaning the matcher and the
automaton size depend on:

* a concatenation holds no empty item, no nested concatenation and no two adjacent
  literals, and has at least two items;
* an alternation holds no nested alternation and has at least two branches; branches that
  are all single characters, or all classes, become one class, and a prefix that all
  branches share as concatenations is taken out in front;
* a class with no character never matches, a class of one character is a literal;
* a repetition of something that only matches the empty text is at most one repetition,
  `{0}` is empty and `{1}` is what it repeats.

Classes written while Unicode is off are byte classes: they hold ASCII only but stay apart
from Unicode classes of the same characters.  Lengths are counted in UTF-8 bytes, and sums
and products that leave 64 bits are unknown (`none`).
-/

namespace Conformance

namespace Pattern

open Text

/-- A zero-width assertion about the characters around a position.  `ascii` selects the
ASCII word characters instead of Unicode's. -/
inductive Look where
  | textStart
  | textEnd
  /-- At the start of the text or after a line feed. -/
  | lineStart
  /-- At the end of the text or before a line feed. -/
  | lineEnd
  /-- At the start, after a line feed, or after a carriage return not followed by a line
  feed. -/
  | lineStartCRLF
  /-- At the end, before a carriage return, or before a line feed not preceded by a
  carriage return. -/
  | lineEndCRLF
  /-- A word character on exactly one side. -/
  | wordBoundary (ascii : Bool)
  | notWordBoundary (ascii : Bool)
  /-- No word character before, a word character after. -/
  | wordStart (ascii : Bool)
  /-- A word character before, none after. -/
  | wordEnd (ascii : Bool)
  /-- No word character before. -/
  | wordStartHalf (ascii : Bool)
  /-- No word character after. -/
  | wordEndHalf (ascii : Bool)
deriving Repr, DecidableEq

/-- A pattern with its flags applied. -/
inductive Expr where
  | empty
  /-- A nonempty string of characters. -/
  | literal (chars : List Char)
  /-- One character of the set; `bytes` marks a class written with Unicode off. -/
  | charClass (set : Ranges) (bytes : Bool)
  | look (l : Look)
  /-- `min` to `max` (unbounded if `none`) repetitions. -/
  | repetition (min : Nat) (max : Option Nat) (greedy : Bool) (sub : Expr)
  /-- A capture group with its number and name. -/
  | capture (index : Nat) (name : Option String) (sub : Expr)
  | concat (items : List Expr)
  | alternation (branches : List Expr)
deriving Repr, Inhabited

namespace Expr

mutual

/-- Whether two expressions are the same. -/
def same : Expr → Expr → Bool
  | .empty, .empty => true
  | .literal a, .literal b => a == b
  | .charClass s a, .charClass t b => s == t && a == b
  | .look l, .look m => l == m
  | .repetition a b c d, .repetition a' b' c' d' => a == a' && b == b' && c == c' && same d d'
  | .capture i n s, .capture i' n' s' => i == i' && n == n' && same s s'
  | .concat xs, .concat ys => sameAll xs ys
  | .alternation xs, .alternation ys => sameAll xs ys
  | _, _ => false

/-- Whether two lists of expressions are the same, item by item. -/
def sameAll : List Expr → List Expr → Bool
  | [], [] => true
  | x :: xs, y :: ys => same x y && sameAll xs ys
  | _, _ => false

end

mutual

/-- The number of nodes of an expression. -/
def nodes : Expr → Nat
  | .repetition _ _ _ sub => sub.nodes + 1
  | .capture _ _ sub => sub.nodes + 1
  | .concat items => nodesAll items + 1
  | .alternation branches => nodesAll branches + 1
  | _ => 1

/-- The number of nodes of a list of expressions. -/
def nodesAll : List Expr → Nat
  | [] => 0
  | e :: es => e.nodes + nodesAll es

end

end Expr

/-- The first number that no longer fits in 64 bits. -/
def wordBound : Nat := 18446744073709551616

/-- A sum in 64 bits, unknown when either part is or when it overflows. -/
def addChecked : Option Nat → Option Nat → Option Nat
  | some a, some b => if a + b < wordBound then some (a + b) else none
  | _, _ => none

/-- A product in 64 bits, unknown when it overflows. -/
def mulChecked (a b : Nat) : Option Nat :=
  if a * b < wordBound then some (a * b) else none

/-- A product in 64 bits that stops at the largest value. -/
def mulSaturating (a b : Nat) : Nat :=
  if a * b < wordBound then a * b else wordBound - 1

/-- The number of UTF-8 bytes of a code point. -/
def utf8Width (c : Nat) : Nat :=
  if c < 0x80 then 1 else if c < 0x800 then 2 else if c < 0x10000 then 3 else 4

/-- The number of UTF-8 bytes of a string of characters. -/
def utf8Length (cs : List Char) : Nat :=
  cs.foldl (fun n c => n + utf8Width c.toNat) 0

/-- The shortest and longest match of a class: the widths of its first and last code
points, one byte for a byte class, unknown for a class with no character. -/
def classLengths (set : Ranges) (bytes : Bool) : Option Nat × Option Nat :=
  match set.toList, set.toList.getLast? with
  | (lo, _) :: _, some (_, hi) =>
    if bytes then (some 1, some 1) else (some (utf8Width lo), some (utf8Width hi))
  | _, _ => (none, none)

/-- The least of the branches' lengths, unknown if there are none or one is unknown. -/
def leastOf : List (Option Nat) → Option Nat
  | [] => none
  | [a] => a
  | a :: rest =>
    match a, leastOf rest with
    | some x, some y => some (Nat.min x y)
    | _, _ => none

/-- The greatest of the branches' lengths, unknown if there are none or one is unknown. -/
def greatestOf : List (Option Nat) → Option Nat
  | [] => none
  | [a] => a
  | a :: rest =>
    match a, greatestOf rest with
    | some x, some y => some (Nat.max x y)
    | _, _ => none

namespace Expr

mutual

/-- The length of the shortest text the expression matches, in UTF-8 bytes. -/
def minLen : Expr → Option Nat
  | .empty => some 0
  | .literal cs => some (utf8Length cs)
  | .charClass set bytes => (classLengths set bytes).1
  | .look _ => some 0
  | .repetition min _ _ sub => sub.minLen.map fun m => mulSaturating m min
  | .capture _ _ sub => sub.minLen
  | .concat items => (minLens items).foldl addChecked (some 0)
  | .alternation branches => leastOf (minLens branches)

/-- The shortest lengths of a list of expressions. -/
def minLens : List Expr → List (Option Nat)
  | [] => []
  | e :: es => e.minLen :: minLens es

end

mutual

/-- The length of the longest text the expression matches, in UTF-8 bytes; unknown when
there is no bound. -/
def maxLen : Expr → Option Nat
  | .empty => some 0
  | .literal cs => some (utf8Length cs)
  | .charClass set bytes => (classLengths set bytes).2
  | .look _ => some 0
  | .repetition _ max _ sub =>
    match max, sub.maxLen with
    | some n, some m => mulChecked m n
    | _, _ => none
  | .capture _ _ sub => sub.maxLen
  | .concat items => (maxLens items).foldl addChecked (some 0)
  | .alternation branches => greatestOf (maxLens branches)

/-- The longest lengths of a list of expressions. -/
def maxLens : List Expr → List (Option Nat)
  | [] => []
  | e :: es => e.maxLen :: maxLens es

end

/-- Whether an expression matches only the empty text. -/
def onlyEmpty (e : Expr) : Bool := e.maxLen == some 0

mutual

/-- Whether every match of the expression starts with the assertion `l` holding: the
assertion is in front of everything else the expression must match. -/
def startsWithLook (l : Look) : Expr → Bool
  | .look m => m == l
  | .repetition min _ _ sub => min > 0 && sub.startsWithLook l
  | .capture _ _ sub => sub.startsWithLook l
  | .concat items => startsWithLookAll l items
  | .alternation [] => false
  | .alternation branches => allStartWithLook l branches
  | _ => false

/-- Whether the assertion stands in front of a concatenation: in one of its items up to
the first one that can match more than the empty text. -/
def startsWithLookAll (l : Look) : List Expr → Bool
  | [] => false
  | e :: rest => e.startsWithLook l || (e.onlyEmpty && startsWithLookAll l rest)

/-- Whether every branch starts with the assertion. -/
def allStartWithLook (l : Look) : List Expr → Bool
  | [] => true
  | e :: rest => e.startsWithLook l && allStartWithLook l rest

end

mutual

/-- Whether every match of the expression ends with the assertion `l` holding. -/
def endsWithLook (l : Look) : Expr → Bool
  | .look m => m == l
  | .repetition min _ _ sub => min > 0 && sub.endsWithLook l
  | .capture _ _ sub => sub.endsWithLook l
  | .concat items => endsWithLookAll l items
  | .alternation [] => false
  | .alternation branches => allEndWithLook l branches
  | _ => false

/-- Whether the assertion stands at the end of a concatenation: in one of its items from
the last one that can match more than the empty text on. -/
def endsWithLookAll (l : Look) : List Expr → Bool
  | [] => false
  | e :: rest => endsWithLookAll l rest || (rest.all onlyEmpty && e.endsWithLook l)

/-- Whether every branch ends with the assertion. -/
def allEndWithLook (l : Look) : List Expr → Bool
  | [] => true
  | e :: rest => e.endsWithLook l && allEndWithLook l rest

end

/-- The expression that never matches: a byte class with no character. -/
def fail : Expr := .charClass Ranges.empty true

/-- The surrogate code points, which are no characters. -/
def surrogates : Ranges := Ranges.interval 0xD800 0xDFFF

/-- A class of the characters of the set (surrogates dropped): `fail` if there is none, a
literal if there is one. -/
def ofClass (set : Ranges) (bytes : Bool) : Expr :=
  let set := set.diff surrogates
  match set.toList with
  | [] => fail
  | [(lo, hi)] => if lo = hi then .literal [Char.ofNat lo] else .charClass set bytes
  | _ => .charClass set bytes

/-- A string of characters; the empty string is the empty expression. -/
def ofLiteral : List Char → Expr
  | [] => .empty
  | cs => .literal cs

/-- Merges adjacent literals. -/
def mergeLiterals : List Expr → List Expr
  | [] => []
  | .literal a :: rest =>
    match mergeLiterals rest with
    | .literal b :: more => .literal (a ++ b) :: more
    | more => .literal a :: more
  | e :: rest => e :: mergeLiterals rest

/-- The items of a concatenation: nested concatenations spread out, empty items dropped. -/
def concatItems : Expr → List Expr
  | .concat xs => xs
  | .empty => []
  | e => [e]

/-- The concatenation of the expressions. -/
def concatOf (items : List Expr) : Expr :=
  match mergeLiterals (items.flatMap concatItems) with
  | [] => .empty
  | [e] => e
  | es => .concat es

/-- The branches of an alternation: nested alternations spread out. -/
def branchesOf : Expr → List Expr
  | .alternation xs => xs
  | e => [e]

/-- The characters of branches that are all single characters. -/
def singleChars : List Expr → Option (List Char)
  | [] => some []
  | .literal [c] :: rest => (singleChars rest).map (c :: ·)
  | _ => none

/-- The union of branches that are all classes (byte classes only of ASCII). -/
def classUnion : List Expr → Option Ranges
  | [] => some Ranges.empty
  | .charClass set bytes :: rest =>
    if bytes && set.toList.any (fun r => r.2 > 0x7F) then none
    else (classUnion rest).map set.union
  | _ => none

/-- The items of branches that are all concatenations. -/
def concatBodies : List Expr → Option (List (List Expr))
  | [] => some []
  | .concat xs :: rest => (concatBodies rest).map (xs :: ·)
  | _ => none

/-- How many leading items, at most `n`, two item lists share. -/
def sharedPrefix : Nat → List Expr → List Expr → Nat
  | 0, _, _ => 0
  | n + 1, x :: xs, y :: ys => if x.same y then sharedPrefix n xs ys + 1 else 0
  | _, _, _ => 0

/-- The alternation of the branches; `fuel` bounds how often a shared prefix is taken out,
and each time the branches lose nodes. -/
def alternationWith : Nat → List Expr → Expr
  | fuel, branches =>
    match branches.flatMap branchesOf with
    | [] => fail
    | [e] => e
    | flat =>
      match singleChars flat with
      | some cs => ofClass (Ranges.ofList (cs.map fun c => (c.toNat, c.toNat))) false
      | none =>
        match classUnion flat with
        | some set => ofClass set false
        | none =>
          match fuel, concatBodies flat with
          | fuel + 1, some (first :: others) =>
            let n := others.foldl (fun n xs => sharedPrefix n first xs) first.length
            if n = 0 then .alternation flat
            else
              let suffixes := (first :: others).map fun xs => concatOf (xs.drop n)
              concatOf (first.take n ++ [alternationWith fuel suffixes])
          | _, _ => .alternation flat

/-- The alternation of the branches. -/
def alternationOf (branches : List Expr) : Expr :=
  alternationWith (nodesAll branches + 1) branches

/-- `min` to `max` repetitions of `sub`: at most one if `sub` only matches the empty text;
`{0}` is empty and `{1}` is `sub` itself. -/
def repeatOf (min : Nat) (max : Option Nat) (greedy : Bool) (sub : Expr) : Expr :=
  let (min, max) :=
    if sub.onlyEmpty then (Nat.min min 1, some ((max.map (Nat.min · 1)).getD 1)) else (min, max)
  if min = 0 && max == some 0 then .empty
  else if min = 1 && max == some 1 then sub
  else .repetition min max greedy sub

end Expr

end Pattern

end Conformance
