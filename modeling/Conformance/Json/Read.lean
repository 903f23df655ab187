import Conformance.Json.Basic

/-!
# Reading JSON text

A reader for JSON text with the number rules of this library's documents:

* an integer literal stays exact while it fits 64 bits (unsigned when non-negative;
  down to `-2^63` when negative); `-0` and longer integers are floats;
* a literal with a fraction or exponent becomes a float in one step: its first
  nineteen or twenty significant digits as a 64-bit integer, converted to binary64 and
  then multiplied or divided by the binary64 power of ten that the exponent names
  (dividing by `1e308` first for exponents below `-308`); digits beyond 64 bits count
  only for the exponent;
* a result that is infinite is refused; an exponent whose digits overflow 32 bits
  gives zero for a negative exponent or a zero significand, and is refused otherwise.

Strings refuse raw control characters and lone surrogates.  Arrays and objects nest
at most 127 deep.  A member written twice keeps its first place and its last value.
-/

namespace Conformance

namespace Json

/-- Why a text is not a document. -/
abbrev ReadResult (α : Type) := Except String (α × List Char)

/-- Drops the blanks that may stand between tokens: space, tab, line feed, return. -/
def skipBlank : List Char → List Char
  | c :: rest => if c = ' ' || c = '\t' || c = '\n' || c = '\r' then skipBlank rest else c :: rest
  | [] => []

/-- The largest 64-bit unsigned word. -/
def wordMax : Nat := Nat.pow 2 64 - 1

/-- The largest 32-bit signed exponent. -/
def exponentMax : Int := 2147483647

/-- Clamps an exponent to the 32-bit signed range. -/
def clampExponent (e : Int) : Int :=
  if e > exponentMax then exponentMax else if e < -exponentMax - 1 then -exponentMax - 1 else e

/-- The binary64 power of ten `10^k`, for `k ≤ 308`. -/
def powerOfTen (k : Nat) : Float :=
  Float.ofScientific 1 false k

/-- The value of a digit character. -/
def digitValue (c : Char) : Nat := c.toNat - 48

/-- Significand and decimal exponent to a float: one multiplication or division by a
power of ten, after dividing by `1e308` while the exponent is below `-308`. -/
def fromParts (positive : Bool) (sig : Nat) (exp : Int) : Except String Float :=
  let sign := fun (f : Float) => if positive then f else -f
  let rec go : Nat → Float → Int → Except String Float
    | 0, f, _ => .ok (sign f)
    | fuel + 1, f, e =>
      if e.natAbs ≤ 308 then
        if e ≥ 0 then
          let g := f * powerOfTen e.toNat
          if g.isInf then .error "number out of range" else .ok (sign g)
        else .ok (sign (f / powerOfTen e.natAbs))
      else if f == 0 then .ok (sign f)
      else if e ≥ 0 then .error "number out of range"
      else go fuel (f / powerOfTen 308) (e + 308)
  go 8 (Float.ofNat sig) exp

/-- The digits of an exponent that has already overflowed: zero unless the exponent
is positive and the significand is not. -/
def exponentOverflow (positive zeroSig positiveExp : Bool) (cs : List Char) :
    ReadResult Float :=
  if !zeroSig && positiveExp then .error "number out of range"
  else .ok (if positive then 0 else -0, cs.dropWhile Char.isDigit)

/-- Exponent digits after the first, accumulated while they fit 32 bits. -/
def exponentDigits (positive : Bool) (sig : Nat) (start : Int) (positiveExp : Bool) :
    Nat → List Char → ReadResult Float
  | e, c :: rest =>
    if c.isDigit then
      let d := digitValue c
      if (e : Int) * 10 + d > exponentMax then exponentOverflow positive (sig == 0) positiveExp rest
      else exponentDigits positive sig start positiveExp (e * 10 + d) rest
    else
      (fromParts positive sig (clampExponent (if positiveExp then start + e else start - e))).map
        (·, c :: rest)
  | e, [] =>
    (fromParts positive sig (clampExponent (if positiveExp then start + e else start - e))).map
      (·, [])

/-- An exponent, after its `e` or `E`. -/
def exponentPart (positive : Bool) (sig : Nat) (start : Int) (cs : List Char) :
    ReadResult Float :=
  let (positiveExp, cs) :=
    match cs with
    | '+' :: rest => (true, rest)
    | '-' :: rest => (false, rest)
    | _ => (true, cs)
  match cs with
  | c :: rest =>
    if c.isDigit then exponentDigits positive sig start positiveExp (digitValue c) rest
    else .error "invalid number"
  | [] => .error "EOF while parsing a value"

/-- Fraction digits once the significand is full: they are skipped. -/
def fractionOverflow (positive : Bool) (sig : Nat) (exp : Int) (cs : List Char) :
    ReadResult Float :=
  match cs.dropWhile Char.isDigit with
  | c :: rest =>
    if c = 'e' || c = 'E' then exponentPart positive sig exp rest
    else (fromParts positive sig exp).map (·, c :: rest)
  | [] => (fromParts positive sig exp).map (·, [])

/-- Fraction digits, accumulated into the significand while it fits 64 bits; `after`
counts them (negated). -/
def fractionDigits (positive : Bool) (before : Int) : Nat → Int → List Char → ReadResult Float
  | sig, after, c :: rest =>
    if c.isDigit then
      let d := digitValue c
      if sig * 10 + d > wordMax then fractionOverflow positive sig (before + after) (c :: rest)
      else fractionDigits positive before (sig * 10 + d) (after - 1) rest
    else if after == 0 then .error "invalid number"
    else if c = 'e' || c = 'E' then exponentPart positive sig (before + after) rest
    else (fromParts positive sig (before + after)).map (·, c :: rest)
  | sig, after, [] =>
    if after == 0 then .error "EOF while parsing a value"
    else (fromParts positive sig (before + after)).map (·, [])

/-- Integer digits once the significand is full: each one raises the exponent. -/
def longInteger (positive : Bool) (sig : Nat) : Int → List Char → ReadResult Float
  | e, c :: rest =>
    if c.isDigit then longInteger positive sig (e + 1) rest
    else if c = '.' then fractionDigits positive e sig 0 rest
    else if c = 'e' || c = 'E' then exponentPart positive sig e rest
    else (fromParts positive sig e).map (·, c :: rest)
  | e, [] => (fromParts positive sig e).map (·, [])

/-- What follows the integer digits of a number that still fits 64 bits. -/
def afterInteger (positive : Bool) (sig : Nat) : List Char → ReadResult JsonNumber
  | '.' :: rest => (fractionDigits positive 0 sig 0 rest).map fun (f, r) => (.float f, r)
  | c :: rest =>
    if c = 'e' || c = 'E' then (exponentPart positive sig 0 rest).map fun (f, r) => (.float f, r)
    else .ok (integer, c :: rest)
  | [] => .ok (integer, [])
where
  integer : JsonNumber :=
    if positive then .int sig
    else if sig = 0 || sig > Nat.pow 2 63 then .float (-(Float.ofNat sig))
    else .int (-(sig : Int))

/-- Integer digits after a non-zero leading digit. -/
def integerDigits (positive : Bool) : Nat → List Char → ReadResult JsonNumber
  | sig, c :: rest =>
    if c.isDigit then
      let d := digitValue c
      if sig * 10 + d > wordMax then
        (longInteger positive sig 0 (c :: rest)).map fun (f, r) => (.float f, r)
      else integerDigits positive (sig * 10 + d) rest
    else afterInteger positive sig (c :: rest)
  | sig, [] => afterInteger positive sig []

/-- A number, from its first character (a digit or `-`). -/
def readNumber (cs : List Char) : ReadResult JsonNumber :=
  let (positive, cs) := match cs with
    | '-' :: rest => (false, rest)
    | _ => (true, cs)
  match cs with
  | '0' :: rest =>
    match rest with
    | c :: _ => if c.isDigit then .error "invalid number" else afterInteger positive 0 rest
    | [] => afterInteger positive 0 []
  | c :: rest =>
    if c.isDigit then integerDigits positive (digitValue c) rest else .error "invalid number"
  | [] => .error "EOF while parsing a value"

/-- The value of a hex digit. -/
def hexValue? (c : Char) : Option Nat :=
  if c.isDigit then some (c.toNat - 48)
  else if 'a' ≤ c && c ≤ 'f' then some (c.toNat - 87)
  else if 'A' ≤ c && c ≤ 'F' then some (c.toNat - 55)
  else none

/-- Four hex digits as a number. -/
def hex4? (a b c d : Char) : Option Nat := do
  let a ← hexValue? a
  let b ← hexValue? b
  let c ← hexValue? c
  let d ← hexValue? d
  pure (((a * 16 + b) * 16 + c) * 16 + d)

/-- The body of a string after its opening quote, characters collected in reverse. -/
def readStringBody : List Char → List Char → ReadResult String
  | acc, '"' :: rest => .ok (String.ofList acc.reverse, rest)
  | acc, '\\' :: 'u' :: a :: b :: c :: d :: rest =>
    match hex4? a b c d with
    | none => .error "invalid escape"
    | some n =>
      if 0xD800 ≤ n && n < 0xDC00 then
        match rest with
        | '\\' :: 'u' :: a2 :: b2 :: c2 :: d2 :: rest2 =>
          match hex4? a2 b2 c2 d2 with
          | some m =>
            if 0xDC00 ≤ m && m < 0xE000 then
              readStringBody (Char.ofNat (0x10000 + (n - 0xD800) * 0x400 + (m - 0xDC00)) :: acc)
                rest2
            else .error "lone leading surrogate in hex escape"
          | none => .error "invalid escape"
        | _ => .error "lone leading surrogate in hex escape"
      else if 0xDC00 ≤ n && n < 0xE000 then .error "lone trailing surrogate in hex escape"
      else readStringBody (Char.ofNat n :: acc) rest
  | acc, '\\' :: e :: rest =>
    match e with
    | '"' => readStringBody ('"' :: acc) rest
    | '\\' => readStringBody ('\\' :: acc) rest
    | '/' => readStringBody ('/' :: acc) rest
    | 'b' => readStringBody (Char.ofNat 8 :: acc) rest
    | 'f' => readStringBody (Char.ofNat 12 :: acc) rest
    | 'n' => readStringBody ('\n' :: acc) rest
    | 'r' => readStringBody ('\r' :: acc) rest
    | 't' => readStringBody ('\t' :: acc) rest
    | _ => .error "invalid escape"
  | _, ['\\'] => .error "EOF while parsing a string"
  | acc, c :: rest =>
    if c.toNat < 32 then .error "control character (\\u0000-\\u001F) found while parsing a string"
    else readStringBody (c :: acc) rest
  | _, [] => .error "EOF while parsing a string"

mutual

/-- A value after optional blanks.  `fuel` bounds the number of steps and `depth` the
remaining nesting. -/
def readValue : Nat → Nat → List Char → ReadResult Json
  | 0, _, _ => .error "input too long"
  | fuel + 1, depth, cs =>
    match skipBlank cs with
    | 'n' :: 'u' :: 'l' :: 'l' :: rest => .ok (.null, rest)
    | 't' :: 'r' :: 'u' :: 'e' :: rest => .ok (.bool true, rest)
    | 'f' :: 'a' :: 'l' :: 's' :: 'e' :: rest => .ok (.bool false, rest)
    | '"' :: rest => (readStringBody [] rest).map fun (s, r) => (.string s, r)
    | '[' :: rest =>
      if depth = 0 then .error "recursion limit exceeded"
      else
        match skipBlank rest with
        | ']' :: rest => .ok (.array [], rest)
        | rest => readItems fuel (depth - 1) [] rest
    | '{' :: rest =>
      if depth = 0 then .error "recursion limit exceeded"
      else
        match skipBlank rest with
        | '}' :: rest => .ok (.object [], rest)
        | rest => readMembers fuel (depth - 1) [] rest
    | c :: rest =>
      if c = '-' || c.isDigit then (readNumber (c :: rest)).map fun (n, r) => (.number n, r)
      else .error "expected value"
    | [] => .error "EOF while parsing a value"

/-- Array items from the next one on; `acc` holds the items so far, reversed. -/
def readItems : Nat → Nat → List Json → List Char → ReadResult Json
  | 0, _, _, _ => .error "input too long"
  | fuel + 1, depth, acc, cs =>
    match readValue fuel depth cs with
    | .error e => .error e
    | .ok (v, rest) =>
      match skipBlank rest with
      | ',' :: rest =>
        match skipBlank rest with
        | ']' :: _ => .error "trailing comma"
        | rest => readItems fuel depth (v :: acc) rest
      | ']' :: rest => .ok (.array (v :: acc).reverse, rest)
      | _ :: _ => .error "expected `,` or `]`"
      | [] => .error "EOF while parsing a list"

/-- Object members from the next one on; `acc` holds the members so far. -/
def readMembers : Nat → Nat → List (String × Json) → List Char → ReadResult Json
  | 0, _, _, _ => .error "input too long"
  | fuel + 1, depth, acc, cs =>
    match skipBlank cs with
    | '"' :: rest =>
      match readStringBody [] rest with
      | .error e => .error e
      | .ok (key, rest) =>
        match skipBlank rest with
        | ':' :: rest =>
          match readValue fuel depth rest with
          | .error e => .error e
          | .ok (v, rest) =>
            let acc := setMember acc key v
            match skipBlank rest with
            | ',' :: rest =>
              match skipBlank rest with
              | '}' :: _ => .error "trailing comma"
              | rest => readMembers fuel depth acc rest
            | '}' :: rest => .ok (.object acc, rest)
            | _ :: _ => .error "expected `,` or `\x7d`"
            | [] => .error "EOF while parsing an object"
        | _ :: _ => .error "expected `:`"
        | [] => .error "EOF while parsing an object"
    | _ :: _ => .error "key must be a string"
    | [] => .error "EOF while parsing an object"

end

/-- Reads a whole text as one document, blanks allowed around it. -/
def parse (s : String) : Except String Json :=
  let cs := s.toList
  match readValue (2 * cs.length + 2) 127 cs with
  | .error e => .error e
  | .ok (v, rest) =>
    if (skipBlank rest).isEmpty then .ok v else .error "trailing characters"

end Json

end Conformance
