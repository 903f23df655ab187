import Conformance.Decimal.Shortest

/-!
# Writing a binary64 value as decimal text

The digits come from `Binary.shortest`; a `Layout` says how they are set down: which
decimal exponents are written positionally, whether an integral positional value
keeps a `.0`, how the exponent is marked and how an exact tie between two candidates
is broken.  Two layouts are used by this library: `Layout.plain`, for diagnostic
text, never uses an exponent, and `Layout.document`, for numbers inside JSON
documents, switches to an exponent outside `1e-5 ≤ |x| < 1e16`.
-/

namespace Conformance

namespace Decimal

/-- The decisions of a decimal text format. -/
structure Layout where
  /-- Scientific exponents (that of the leading digit) written without an exponent. -/
  positional : Int → Bool
  /-- An integral value written positionally ends in `.0`. -/
  pointZero : Bool
  /-- A non-negative exponent is written with a `+`. -/
  plusExponent : Bool
  /-- Which of two equally near shortest candidates is written. -/
  tie : Tie

/-- Diagnostic text: always positional, no `.0`, a tie goes to the larger magnitude. -/
def Layout.plain : Layout where
  positional _ := true
  pointZero := false
  plusExponent := false
  tie := .up

/-- Numbers in JSON documents: positional from `1e-5` up to below `1e16`, integral
values keep `.0`, exponents carry their sign, ties go to even. -/
def Layout.document : Layout where
  positional e := -5 ≤ e && e ≤ 15
  pointZero := true
  plusExponent := true
  tie := .toEven

/-- `n` zeros. -/
def zeros (n : Nat) : String :=
  String.ofList (List.replicate n '0')

/-- The decimal digits of `n`. -/
def digitString (n : Nat) : String :=
  String.ofList (Nat.toDigits 10 n)

/-- Sets down the non-negative decimal `d` (already free of trailing zeros). -/
def Layout.renderDec (l : Layout) (d : Dec) : String :=
  let ds := Nat.toDigits 10 d.digits
  let n := ds.length
  let sci : Int := (n : Int) - 1 + d.exp
  if l.positional sci then
    if d.exp ≥ 0 then
      digitString d.digits ++ zeros d.exp.toNat ++ (if l.pointZero then ".0" else "")
    else if sci ≥ 0 then
      let whole := (sci + 1).toNat
      String.ofList (ds.take whole) ++ "." ++ String.ofList (ds.drop whole)
    else
      "0." ++ zeros (-sci - 1).toNat ++ String.ofList ds
  else
    let mantissa :=
      match ds with
      | [] => "0"
      | [c] => String.singleton c
      | c :: rest => String.singleton c ++ "." ++ String.ofList rest
    let sign := if sci < 0 then "-" else if l.plusExponent then "+" else ""
    mantissa ++ "e" ++ sign ++ digitString sci.natAbs

/-- Writes a finite value: a `-` for a negative sign bit, then the shortest digits
set down by the layout.  Zero is written `0` (with `.0` where integral values keep it).
Non-finite values are written `NaN`, `inf` and `-inf`. -/
def Layout.render (l : Layout) (x : Float) : String :=
  if x.isNaN then "NaN"
  else
    let sign := if (x.toBits >>> 63) == 1 then "-" else ""
    if x.isInf then sign ++ "inf"
    else
      let b := Binary.ofBits x.toBits
      if b.m = 0 then sign ++ "0" ++ (if l.pointZero then ".0" else "")
      else sign ++ l.renderDec (b.shortest l.tie)

end Decimal

end Conformance
