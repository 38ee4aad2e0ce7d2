import TestCensus.Number.Rounding

/-!
# Numbers with 53 significant bits

Percentages are computed with numbers of 53 significant bits.  A `Binary64` is
such a number, `mantissa * 2 ^ exponent` with a mantissa of exactly 53 bits, or
zero.  Conversion, multiplication and division take the exact result and round it
to the nearest such number, and to the even mantissa of two (`ofRatio`).  The
numbers that occur lie far inside the range of the exponent, so the exponent has
no bounds here.

Two things are written of a number: its 64 bits (`bits`), and its value with one
decimal place.  The place is rounded exactly, and a half goes to the even digit
(`tenths`).  `roundedTenths` rounds differently: it multiplies by ten in 53 bits
first and then takes the nearest whole number, a half upwards.
-/

namespace TestCensus.Number

/-- A number that is not negative and has at most 53 significant bits. -/
structure Binary64 where
  /-- The significant bits: zero, or a number of 53 bits. -/
  mantissa : Nat
  /-- The power of two that the mantissa is multiplied by. -/
  exponent : Int
deriving DecidableEq, Repr

namespace Binary64

/-- The smallest mantissa of 53 bits, `2 ^ 52`. -/
def leastMantissa : Nat := 4503599627370496

/-- Zero. -/
def zero : Binary64 := ⟨0, 0⟩

/-- The numerator of the value as a fraction. -/
def num (x : Binary64) : Nat := x.mantissa <<< x.exponent.toNat

/-- The denominator of the value as a fraction. -/
def den (x : Binary64) : Nat := 1 <<< (-x.exponent).toNat

/-- The fraction `n / d` in units of `2 ^ e`, as a fraction. -/
def inUnits (n d : Nat) (e : Int) : Nat × Nat := (n <<< (-e).toNat, d <<< e.toNat)

/-- The exponent at which the fraction `n / d` has 53 bits before the point. -/
def exponentOf (n d : Nat) : Int :=
  let e := (n.log2 : Int) - (d.log2 : Int) - 52
  let (n', d') := inUnits n d e
  if n' / d' < leastMantissa then e - 1 else e

/-- The number nearest to the fraction `n / d`. -/
def ofRatio (n d : Nat) : Binary64 :=
  if n = 0 then zero
  else
    let e := exponentOf n d
    let (n', d') := inUnits n d e
    let m := halfEven n' d'
    if m = 2 * leastMantissa then ⟨leastMantissa, e + 1⟩ else ⟨m, e⟩

/-- The number nearest to a natural number. -/
def ofNat (n : Nat) : Binary64 := ofRatio n 1

/-- The number nearest to the product. -/
def mul (x y : Binary64) : Binary64 := ofRatio (x.num * y.num) (x.den * y.den)

/-- The number nearest to the quotient. -/
def div (x y : Binary64) : Binary64 := ofRatio (x.num * y.den) (x.den * y.num)

/-- The number as 64 bits: the biased exponent before the bits of the mantissa
behind the first one. -/
def bits (x : Binary64) : Nat :=
  if x.mantissa = 0 then 0
  else (x.exponent + 1075).toNat * leastMantissa + (x.mantissa - leastMantissa)

/-- The value in tenths, rounded exactly, and to the even tenth of two. -/
def tenths (x : Binary64) : Nat := halfEven (10 * x.num) x.den

/-- The product with ten, rounded to a whole number, and to the larger one of
two. -/
def roundedTenths (x : Binary64) : Nat :=
  let y := x.mul (ofNat 10)
  halfUp y.num y.den

end Binary64

/-- A number of tenths with a point before the last digit. -/
def tenthsText (n : Nat) : String := toString (n / 10) ++ "." ++ toString (n % 10)

/-- The share of a part in a whole, in percent.  The share in nothing is zero. -/
def percentage (part whole : Nat) : Binary64 :=
  if whole = 0 then Binary64.zero
  else ((Binary64.ofNat part).mul (Binary64.ofNat 100)).div (Binary64.ofNat whole)

end TestCensus.Number
