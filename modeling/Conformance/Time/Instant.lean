/-!
# Instants and their RFC 3339 text

An instant is a count of seconds since 1970-01-01T00:00:00 UTC on the proleptic
Gregorian calendar, with the nanoseconds into that second.  A leap second is the
59th second of a minute carried on with nanoseconds from `10^9` up.

Text is read in the RFC 3339 form `YYYY-MM-DDTHH:MM:SS[.fraction](Z|±HH:MM)`, with `t`
or a space also allowed between date and time and `z` for `Z`; only the first nine
fraction digits count.  An offset is at most 23:59 either way and is taken off to give
UTC.  Text is written in UTC with milliseconds (truncated) and a `Z`; a year outside
0…9999 is written with its sign and at least four digits.
-/

namespace Conformance

/-- A point in time, in UTC. -/
structure Instant where
  /-- Seconds since the epoch. -/
  seconds : Int
  /-- Nanoseconds into the second; from `10^9` on, the leap second after it. -/
  nanos : Nat
deriving DecidableEq, Repr, Inhabited

namespace Instant

/-- Whether `y` is a leap year of the Gregorian calendar. -/
def leapYear (y : Int) : Bool :=
  (y % 4 == 0 && y % 100 != 0) || y % 400 == 0

/-- The number of days of month `m` (1 to 12) of year `y`. -/
def daysInMonth (y : Int) (m : Nat) : Nat :=
  match m with
  | 2 => if leapYear y then 29 else 28
  | 4 | 6 | 9 | 11 => 30
  | _ => 31

/-- Days from 1970-01-01 to the given civil date. -/
def daysFromCivil (y : Int) (m d : Nat) : Int :=
  let y := if m ≤ 2 then y - 1 else y
  let era := y / 400
  let yoe := y - era * 400
  let mp : Int := if m > 2 then (m : Int) - 3 else (m : Int) + 9
  let doy := (153 * mp + 2) / 5 + (d : Int) - 1
  let doe := yoe * 365 + yoe / 4 - yoe / 100 + doy
  era * 146097 + doe - 719468

/-- The civil date (year, month, day) of a day count from 1970-01-01. -/
def civilFromDays (z : Int) : Int × Nat × Nat :=
  let z := z + 719468
  let era := z / 146097
  let doe := z - era * 146097
  let yoe := (doe - doe / 1460 + doe / 36524 - doe / 146096) / 365
  let y := yoe + era * 400
  let doy := doe - (365 * yoe + yoe / 4 - yoe / 100)
  let mp := (5 * doy + 2) / 153
  let d := doy - (153 * mp + 2) / 5 + 1
  let m := if mp < 10 then mp + 3 else mp - 9
  ((if m ≤ 2 then y + 1 else y), m.toNat, d.toNat)

/-- Exactly `n` decimal digits as a number. -/
def digitsExactly : Nat → List Char → Option (Nat × List Char)
  | 0, cs => some (0, cs)
  | n + 1, cs =>
    match cs with
    | c :: rest =>
      if c.isDigit then
        (digitsExactly n rest).map fun (v, r) => ((c.toNat - 48) * Nat.pow 10 n + v, r)
      else none
    | [] => none

/-- One expected character. -/
def expect (c : Char) : List Char → Option (List Char)
  | d :: rest => if c = d then some rest else none
  | [] => none

/-- A fraction after its point: at least one digit, the first nine as nanoseconds. -/
def readFraction (cs : List Char) : Option (Nat × List Char) :=
  let ds := cs.takeWhile Char.isDigit
  if ds.isEmpty then none
  else
    let nine := (ds.take 9) ++ List.replicate (9 - ds.length) '0'
    some (nine.foldl (fun acc c => acc * 10 + (c.toNat - 48)) 0, cs.drop ds.length)

/-- The offset from UTC in seconds: `Z`, `z`, or a sign with hours and minutes. -/
def readOffset (cs : List Char) : Option (Int × List Char) :=
  match cs with
  | 'Z' :: rest => some (0, rest)
  | 'z' :: rest => some (0, rest)
  | s :: rest =>
    let sign : Option Int :=
      if s = '+' then some 1 else if s = '-' || s = '−' then some (-1) else none
    sign.bind fun sign => do
      let (h, rest) ← digitsExactly 2 rest
      let rest ← expect ':' rest
      let (m, rest) ← digitsExactly 2 rest
      if m ≥ 60 then none else some (sign * ((h : Int) * 3600 + (m : Int) * 60), rest)
  | [] => none

/-- Reads RFC 3339 text as an instant. -/
def ofRfc3339? (s : String) : Option Instant := do
  let cs := s.toList
  let (year, cs) ← digitsExactly 4 cs
  let cs ← expect '-' cs
  let (month, cs) ← digitsExactly 2 cs
  let cs ← expect '-' cs
  let (day, cs) ← digitsExactly 2 cs
  let cs ← match cs with
    | c :: rest => if c = 'T' || c = 't' || c = ' ' then some rest else none
    | [] => none
  let (hour, cs) ← digitsExactly 2 cs
  let cs ← expect ':' cs
  let (minute, cs) ← digitsExactly 2 cs
  let cs ← expect ':' cs
  let (second, cs) ← digitsExactly 2 cs
  let (nanos, cs) ← match cs with
    | '.' :: rest => readFraction rest
    | _ => some (0, cs)
  let (offset, cs) ← readOffset cs
  if !cs.isEmpty then none
  else if offset.natAbs > (23 * 60 + 59) * 60 then none
  else if month < 1 || month > 12 || day < 1 || day > daysInMonth year month then none
  else if hour > 23 || minute > 59 || second > 60 then none
  else
    let (second, nanos) := if second = 60 then (59, nanos + 1000000000) else (second, nanos)
    let days := daysFromCivil year month day
    some ⟨days * 86400 + hour * 3600 + minute * 60 + second - offset, nanos⟩

/-- `n` written with at least `width` digits. -/
def padded (width n : Nat) : String :=
  let ds := Nat.toDigits 10 n
  String.ofList (List.replicate (width - ds.length) '0' ++ ds)

/-- The instant in UTC with milliseconds, e.g. `2020-01-01T00:00:00.000Z`. -/
def toRfc3339Millis (t : Instant) : String :=
  let days := t.seconds / 86400
  let secs := (t.seconds % 86400).toNat
  let (y, m, d) := civilFromDays days
  let (sec, nanos) :=
    if t.nanos ≥ 1000000000 then (secs % 60 + 1, t.nanos - 1000000000) else (secs % 60, t.nanos)
  let year :=
    if 0 ≤ y && y ≤ 9999 then padded 4 y.toNat
    else (if y < 0 then "-" else "+") ++ padded 4 y.natAbs
  year ++ "-" ++ padded 2 m ++ "-" ++ padded 2 d ++ "T" ++ padded 2 (secs / 3600) ++ ":" ++
    padded 2 (secs / 60 % 60) ++ ":" ++ padded 2 sec ++ "." ++ padded 3 (nanos / 1000000) ++ "Z"

end Instant

end Conformance
