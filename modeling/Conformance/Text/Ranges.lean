/-!
# Sets of code points as ranges

A set of code points is a list of inclusive ranges, sorted, disjoint and not adjacent,
so that every set has one list.  Union, complement (within `0 … 0x10FFFF`),
intersection, difference and symmetric difference keep that form.
-/

namespace Conformance

namespace Text

/-- The largest code point. -/
def maxCodePoint : Nat := 0x10FFFF

/-- A set of code points as sorted, disjoint, non-adjacent inclusive ranges. -/
structure Ranges where
  toList : List (Nat × Nat)
deriving Repr, Inhabited, DecidableEq

namespace Ranges

/-- The empty set. -/
def empty : Ranges := ⟨[]⟩

/-- Merges sorted ranges that overlap or touch. -/
def mergeSorted : List (Nat × Nat) → List (Nat × Nat)
  | [] => []
  | [r] => [r]
  | (a, b) :: (c, d) :: rest =>
    if c ≤ b + 1 then mergeSorted ((a, max b d) :: rest) else (a, b) :: mergeSorted ((c, d) :: rest)
termination_by l => l.length

/-- The set of the code points of any of the given ranges (empty ranges are dropped). -/
def ofList (rs : List (Nat × Nat)) : Ranges :=
  ⟨mergeSorted ((rs.filter fun r => r.1 ≤ r.2).mergeSort fun r s => r.1 ≤ s.1)⟩

/-- One code point. -/
def single (n : Nat) : Ranges := ⟨[(n, n)]⟩

/-- The code points from `lo` to `hi`. -/
def interval (lo hi : Nat) : Ranges := ofList [(lo, hi)]

/-- Whether `n` is in the set. -/
def contains (r : Ranges) (n : Nat) : Bool :=
  r.toList.any fun (lo, hi) => lo ≤ n && n ≤ hi

/-- The union of two sets. -/
def union (a b : Ranges) : Ranges := ofList (a.toList ++ b.toList)

/-- The gaps between sorted ranges, from `next` up to `maxCodePoint`. -/
def gaps (next : Nat) : List (Nat × Nat) → List (Nat × Nat)
  | [] => if next ≤ maxCodePoint then [(next, maxCodePoint)] else []
  | (lo, hi) :: rest =>
    let rest := gaps (hi + 1) rest
    if next < lo then (next, lo - 1) :: rest else rest

/-- The code points not in the set. -/
def complement (a : Ranges) : Ranges := ⟨gaps 0 a.toList⟩

/-- The code points in both sets. -/
def inter (a b : Ranges) : Ranges := (a.complement.union b.complement).complement

/-- The code points of `a` not in `b`. -/
def diff (a b : Ranges) : Ranges := a.inter b.complement

/-- The code points in exactly one of the sets. -/
def symmDiff (a b : Ranges) : Ranges := (a.diff b).union (b.diff a)

/-- The value of a hex digit. -/
def hexDigitValue (c : Char) : Nat :=
  if c.isDigit then c.toNat - 48 else if 'a' ≤ c && c ≤ 'f' then c.toNat - 87 else 0

/-- A number written in hex. -/
def ofHex (s : String) : Nat :=
  s.toList.foldl (fun acc c => acc * 16 + hexDigitValue c) 0

/-- Reads a table: comma-separated hex code points and ranges `lo-hi`. -/
def ofTable (s : String) : Ranges :=
  ofList ((s.splitOn ",").filterMap fun item =>
    match item.splitOn "-" with
    | [a] => if a.isEmpty then none else some (ofHex a, ofHex a)
    | [a, b] => some (ofHex a, ofHex b)
    | _ => none)

/-- The value of a digit of the compact table form: `0`–`9`, then the consonants `b`–`z`
for 10 to 30. -/
def compactDigit (c : Char) : Nat :=
  if c.isDigit then c.toNat - 48
  else ((String.toList "bcdfghjklmnpqrstvwxyz").idxOf c) + 10

/-- A number of the compact table form, in base 31. -/
def compactNumber (ds : List Char) : Nat :=
  ds.foldl (fun acc c => acc * 31 + compactDigit c) 0

/-- The ranges of the compact table items from `next` on: each item is a gap and,
after `+`, a length less one. -/
def compactItems : Nat → List String → List (Nat × Nat)
  | _, [] => []
  | next, item :: rest =>
    let (gap, len) := match item.splitOn "+" with
      | [g, l] => (compactNumber g.toList, compactNumber l.toList)
      | _ => (compactNumber item.toList, 0)
    let lo := next + gap
    (lo, lo + len) :: compactItems (lo + len + 1) rest

/-- Reads a table in the compact form: ranges in ascending order, each written as its
gap from the end of the one before (from 0 for the first) and, after `+`, its length less
one, separated by commas. -/
def ofCompact (s : String) : Ranges :=
  if s.isEmpty then empty else ⟨mergeSorted (compactItems 0 (s.splitOn ","))⟩

end Ranges

end Text

end Conformance
