/-!
# UTF-8 byte ranges

The UTF-8 encoding of code points, and the split of a range of scalar values into
sequences of byte ranges: each sequence is a list of ranges, one per byte, whose product
is exactly the encodings of a part of the range.  Surrogates are left out, every part
has one encoded width, and within a part the trailing bytes run over whole blocks, so
that a byte automaton can read the range sequence by sequence.
-/

namespace Conformance

namespace Pattern

/-- The UTF-8 bytes of a code point. -/
def utf8Bytes (c : Nat) : List Nat :=
  if c < 0x80 then [c]
  else if c < 0x800 then [0xC0 + c / 64, 0x80 + c % 64]
  else if c < 0x10000 then [0xE0 + c / 4096, 0x80 + c / 64 % 64, 0x80 + c % 64]
  else [0xF0 + c / 262144, 0x80 + c / 4096 % 64, 0x80 + c / 64 % 64, 0x80 + c % 64]

/-- The largest code point of one, two and three bytes. -/
def widthLimits : List Nat := [0x7F, 0x7FF, 0xFFFF]

/-- The sizes of the blocks of trailing bytes below one, two and three trailing bytes. -/
def blockSizes : List Nat := [64, 4096, 262144]

/-- A width limit strictly inside the range, where it splits by encoded width. -/
def widthSplit? (lo hi : Nat) : Option Nat :=
  widthLimits.find? fun m => lo ≤ m && m < hi

/-- The first place where the range does not run over whole blocks of trailing bytes: the
two parts to split it into. -/
def blockSplit? (lo hi : Nat) : Option ((Nat × Nat) × (Nat × Nat)) :=
  go blockSizes
where
  go : List Nat → Option ((Nat × Nat) × (Nat × Nat))
    | [] => none
    | size :: rest =>
      if lo / size != hi / size then
        if lo % size != 0 then
          let cut := lo - lo % size + size
          some ((lo, cut - 1), (cut, hi))
        else if hi % size != size - 1 then
          let cut := hi - hi % size
          some ((lo, cut - 1), (cut, hi))
        else go rest
      else go rest

/-- The byte-range sequences of the scalar values from `lo` to `hi`, in order.  Parts
still to split are kept on a stack, the lower part on top; `fuel` bounds the steps. -/
def utf8Sequences (lo hi : Nat) : List (List (Nat × Nat)) :=
  go 512 [(lo, hi)] []
where
  go : Nat → List (Nat × Nat) → List (List (Nat × Nat)) → List (List (Nat × Nat))
    | 0, _, acc => acc.reverse
    | _, [], acc => acc.reverse
    | fuel + 1, (s, e) :: stack, acc =>
      if s < 0xE000 && e > 0xD7FF then go fuel ((s, 0xD7FF) :: (0xE000, e) :: stack) acc
      else if e < s then go fuel stack acc
      else
        match widthSplit? s e with
        | some m => go fuel ((s, m) :: (m + 1, e) :: stack) acc
        | none =>
          if e ≤ 0x7F then go fuel stack ([(s, e)] :: acc)
          else
            match blockSplit? s e with
            | some (first, second) => go fuel (first :: second :: stack) acc
            | none => go fuel stack ((utf8Bytes s).zip (utf8Bytes e) :: acc)

end Pattern

end Conformance
