/-!
# Text lengths and containment

The length of a string in UTF-16 code units (a character above U+FFFF takes two), and
whether one string occurs inside another.
-/

namespace Conformance

namespace Text

/-- The number of UTF-16 code units of a character. -/
def units16 (c : Char) : Nat :=
  if c.toNat ≥ 0x10000 then 2 else 1

/-- The length of a string in UTF-16 code units. -/
def utf16Length (s : String) : Nat :=
  s.toList.foldl (fun n c => n + units16 c) 0

/-- Whether `needle` occurs in `hay` as a contiguous run. -/
def occursIn (needle : List Char) : List Char → Bool
  | [] => needle.isEmpty
  | c :: rest => needle.isPrefixOf (c :: rest) || occursIn needle rest

/-- Whether `needle` occurs in `hay`. -/
def containsText (hay needle : String) : Bool :=
  occursIn needle.toList hay.toList

end Text

end Conformance
