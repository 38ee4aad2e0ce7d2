import TestCensus.Toml.Text

/-!
# TOML numbers and moments

An integer is written in decimal digits with an optional sign and no leading zero,
or in hexadecimal, octal or binary digits behind `0x`, `0o` or `0b`.  An
underscore may stand between two digits.  It has to fit 64 bits.

A decimal number with a fraction or an exponent, an infinity, and the number that
is none are *floats*.  Moments are dates, times, and a date and a time together.
Their parts have to lie in their ranges.
-/

namespace TestCensus.Toml

/-- A decimal digit. -/
def isDecimal (c : Char) : Bool := '0' ≤ c && c ≤ '9'

/-- The digits behind a digit, without the underscores between them. -/
def moreDigits (isDigit : Char → Bool) : Reader (List Char)
  | [] => some ([], [])
  | '_' :: c :: rest => if isDigit c then prepend c (moreDigits isDigit rest) else none
  | c :: rest =>
      if isDigit c then prepend c (moreDigits isDigit rest)
      else if c = '_' then none
      else some ([], c :: rest)

/-- One or more digits. -/
def digits (isDigit : Char → Bool) : Reader (List Char)
  | [] => none
  | c :: rest => if isDigit c then prepend c (moreDigits isDigit rest) else none

/-- The digits of a decimal integer.  A leading zero is the only digit. -/
def decimalDigits : Reader (List Char)
  | '0' :: rest => some (['0'], rest)
  | cs => digits isDecimal cs

/-- The number that digits write in a base. -/
def numberOf (base : Nat) (ds : List Char) : Nat :=
  ds.foldl (fun n c => base * n + (hexValue? c).getD 0) 0

/-- A sign, and whether it is a minus. -/
def sign : List Char → Option Bool × List Char
  | '+' :: rest => (some false, rest)
  | '-' :: rest => (some true, rest)
  | cs => (none, cs)

/-- An integer that fits 64 bits. -/
def boundedInteger? (negative : Bool) (n : Nat) : Option Value :=
  if negative then
    if n ≤ maxInteger + 1 then some (.integer (-(n : Int))) else none
  else if n ≤ maxInteger then some (.integer n) else none

/-- An integer in a base, behind the letter of the base. -/
def basedInteger (base : Nat) (isDigit : Char → Bool) (cs : List Char) :
    Option (Value × List Char) := do
  let (ds, rest) ← digits isDigit cs
  let v ← boundedInteger? false (numberOf base ds)
  return (v, rest)

/-- The exponent of a float, or nothing. -/
def exponent (cs : List Char) : Option (Int × List Char) :=
  match cs with
  | c :: rest =>
      if c = 'e' || c = 'E' then do
        let (s, rest) := sign rest
        let (ds, rest) ← digits isDecimal rest
        let n : Int := numberOf 10 ds
        return (if s = some true then -n else n, rest)
      else some (0, cs)
  | [] => some (0, [])

/-- The least number that is rounded to an infinity. -/
def infinityBound : Nat := 1 <<< 1024 - 1 <<< 970

/-- The number `m * 10 ^ e` is rounded to an infinity. -/
def isInfinite (m : Nat) (e : Int) : Bool :=
  let size : Int := (toString m).length + e
  if m = 0 || size < 300 then false
  else if size > 320 then true
  else m * Nat.pow 10 e.toNat ≥ infinityBound * Nat.pow 10 (-e).toNat

/-- A float, from the digits before its point or exponent.  A number too large is
refused, unless it is negative. -/
def float (negative : Bool) (whole fraction : List Char) (cs : List Char) :
    Option (Value × List Char) := do
  let (e, rest) ← exponent cs
  if !negative && isInfinite (numberOf 10 (whole ++ fraction)) (e - fraction.length) then none
  else return (.float, rest)

/-- A number with an optional sign. -/
def number (cs : List Char) : Option (Value × List Char) :=
  match sign cs with
  | (_, 'i' :: 'n' :: 'f' :: rest) => some (.float, rest)
  | (_, 'n' :: 'a' :: 'n' :: rest) => some (.float, rest)
  | (none, '0' :: 'x' :: rest) => basedInteger 16 (fun c => (hexValue? c).isSome) rest
  | (none, '0' :: 'o' :: rest) => basedInteger 8 (fun c => '0' ≤ c && c ≤ '7') rest
  | (none, '0' :: 'b' :: rest) => basedInteger 2 (fun c => c = '0' || c = '1') rest
  | (s, rest) => do
      let negative := s = some true
      let (whole, rest) ← decimalDigits rest
      match rest with
      | '.' :: rest => do
          let (fraction, rest) ← digits isDecimal rest
          float negative whole fraction rest
      | 'e' :: _ => float negative whole [] rest
      | 'E' :: _ => float negative whole [] rest
      | _ => do
          let v ← boundedInteger? negative (numberOf 10 whole)
          return (v, rest)

/-! ## Moments -/

/-- A number of exactly `n` decimal digits. -/
def fixedDigits (n : Nat) (cs : List Char) : Option (Nat × List Char) :=
  let ds := cs.take n
  if ds.length = n && ds.all isDecimal then some (numberOf 10 ds, cs.drop n) else none

/-- A number of two digits in a range, behind a separator. -/
def part (separator : Char) (low high : Nat) : Reader Nat
  | [] => none
  | c :: rest =>
      if c = separator then
        (fixedDigits 2 rest).filter fun (n, _) => low ≤ n && n ≤ high
      else none

/-- The number of days in a month. -/
def daysIn (year month : Nat) : Nat :=
  if month = 2 then
    if year % 4 = 0 && (year % 100 ≠ 0 || year % 400 = 0) then 29 else 28
  else if month = 4 || month = 6 || month = 9 || month = 11 then 30
  else 31

/-- A date; what follows it. -/
def date? (cs : List Char) : Option (List Char) := do
  let (year, cs) ← fixedDigits 4 cs
  let (month, cs) ← part '-' 1 12 cs
  let (_, cs) ← part '-' 1 (daysIn year month) cs
  return cs

/-- The fraction of a second, or nothing; what follows it. -/
def secondFraction? : List Char → Option (List Char)
  | '.' :: c :: rest => if isDecimal c then some (rest.dropWhile isDecimal) else none
  | '.' :: [] => none
  | cs => some cs

/-- A time of day; what follows it. -/
def time? (cs : List Char) : Option (List Char) := do
  let (hour, cs) ← fixedDigits 2 cs
  if hour > 23 then none else
    let (_, cs) ← part ':' 0 59 cs
    let (_, cs) ← part ':' 0 60 cs
    secondFraction? cs

/-- The distance from universal time, or nothing; what follows it. -/
def offset? (cs : List Char) : Option (List Char) :=
  match cs with
  | [] => some []
  | c :: rest =>
      if c = 'Z' || c = 'z' then some rest
      else if c = '+' || c = '-' then do
        let (_, rest) ← part c 0 23 cs
        let (_, rest) ← part ':' 0 59 rest
        return rest
      else some cs

/-- The text begins with two digits and a colon. -/
def startsTime : List Char → Bool
  | a :: b :: c :: _ => isDecimal a && isDecimal b && c = ':'
  | _ => false

/-- The text begins with four digits and a hyphen. -/
def startsDate : List Char → Bool
  | a :: b :: c :: d :: e :: _ =>
      isDecimal a && isDecimal b && isDecimal c && isDecimal d && e = '-'
  | _ => false

/-- A date, with a time behind it if there is one. -/
def dateAndTime (cs : List Char) : Option (Value × List Char) := do
  let rest ← date? cs
  match rest with
  | c :: after =>
      if (c = 'T' || c = 't' || c = ' ') && startsTime after then do
        let after ← time? after
        let after ← offset? after
        return (.moment, after)
      else return (.moment, rest)
  | [] => return (.moment, [])

/-- A number or a moment. -/
def numberOrMoment (cs : List Char) : Option (Value × List Char) :=
  if startsDate cs then dateAndTime cs
  else if startsTime cs then (time? cs).map fun rest => (.moment, rest)
  else number cs

end TestCensus.Toml
