/-!
# Numerals

A number that has to fit 64 bits is given in decimal digits, with a plus sign
before them or without one.  The digits are read from the left, and the first
thing that is wrong is reported: a character that is no digit, or a digit with
which the number passes the limit.
-/

namespace TestCensus.Number

/-- Why a text is no numeral. -/
inductive NumeralError where
  /-- There are no characters. -/
  | empty
  /-- There is no digit, or another character. -/
  | invalidDigit
  /-- The number passes the limit. -/
  | tooLarge
deriving DecidableEq, Repr

/-- The text of an error. -/
def NumeralError.message : NumeralError → String
  | empty => "cannot parse integer from empty string"
  | invalidDigit => "invalid digit found in string"
  | tooLarge => "number too large to fit in target type"

/-- The largest number of 64 bits. -/
def numeralLimit : Nat := 18446744073709551615

/-- The value of a digit. -/
def digitValue (c : Char) : Nat := c.toNat - '0'.toNat

/-- The number that is given by the digits after those of `n`. -/
def readDigits : Nat → List Char → Except NumeralError Nat
  | n, [] => .ok n
  | n, c :: rest =>
      if !c.isDigit then .error .invalidDigit
      else if numeralLimit < n * 10 + digitValue c then .error .tooLarge
      else readDigits (n * 10 + digitValue c) rest

/-- The number that a text gives. -/
def readNumeral : List Char → Except NumeralError Nat
  | [] => .error .empty
  | ['+'] => .error .invalidDigit
  | '+' :: digits => readDigits 0 digits
  | digits => readDigits 0 digits

end TestCensus.Number
