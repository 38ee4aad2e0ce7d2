import TestCensus.Shell.Reader

/-!
# Sums

A sum is evaluated while it is read.  Operators have levels; those of a higher
level bind stronger, and those of one level are taken from the left.  A comparison
gives one or zero, and division cuts toward zero.  A name stands for the value of
a parameter, and it may be given a new one.

A sum that is not well formed, or that divides by zero, has no value.
-/

namespace TestCensus.Shell

open TestCensus.Text

/-! ## Numbers -/

/-- The number that digits give. -/
def decimal (cs : List Char) : Nat := cs.foldl (fun n c => n * 10 + (c.toNat - '0'.toNat)) 0

/-- The number that a text gives, with a sign or without one. -/
def integer? (cs : List Char) : Option Int :=
  let natural? (ds : List Char) : Option Nat :=
    if !ds.isEmpty && ds.all Char.isDigit then some (decimal ds) else none
  match cs with
  | '-' :: ds => (natural? ds).map fun n => -(n : Int)
  | '+' :: ds => (natural? ds).map Int.ofNat
  | ds => (natural? ds).map Int.ofNat

/-- The value of a digit in bases up to sixteen. -/
def digitOf (c : Char) : Nat :=
  if c.isDigit then c.toNat - '0'.toNat else c.toLower.toNat - 'a'.toNat + 10

/-- The number that digits give in a base, if they are digits of that base. -/
def inBase? (base : Nat) (cs : List Char) : Option Nat :=
  if !cs.isEmpty && cs.all fun c => c.isAlphanum && digitOf c < base then
    some (cs.foldl (fun n c => n * base + digitOf c) 0)
  else none

/-- The number that a constant of a sum gives.  A zero at its beginning makes it
octal, and an `x` behind that hexadecimal. -/
def constant? : List Char → Option Int
  | '0' :: 'x' :: ds => (inBase? 16 ds).map Int.ofNat
  | '0' :: 'X' :: ds => (inBase? 16 ds).map Int.ofNat
  | ['0'] => some 0
  | '0' :: ds => (inBase? 8 ds).map Int.ofNat
  | ds => (inBase? 10 ds).map Int.ofNat

/-! ## Operators -/

/-- Why a sum has no value. -/
inductive SumFault where
  /-- An operand is missing. -/
  | noOperand
  /-- Something follows the sum. -/
  | noEnd
  /-- A parenthesis is not closed. -/
  | unclosed
  /-- Something is divided by zero. -/
  | divisionByZero
  /-- The value of a name is no number. -/
  | noNumber (text : String)
deriving DecidableEq

/-- The text of a fault in a sum. -/
def SumFault.message (expression : String) : SumFault → String
  | noOperand => "arithmetic expression: expecting primary: " ++ inQuotes expression
  | noEnd => "arithmetic expression: expecting EOF: " ++ inQuotes expression
  | unclosed => "arithmetic expression: expecting ')': " ++ inQuotes expression
  | divisionByZero => "arithmetic expression: division by zero: " ++ inQuotes expression
  | noNumber text => "Illegal number: " ++ text

/-- One for true and zero for false. -/
def truth (b : Bool) : Int := if b then 1 else 0

/-- What an operator gives for its operands. -/
abbrev Operation := Int → Int → Except SumFault Int

/-- An operation that always has a value. -/
def always (f : Int → Int → Int) : Operation := fun a b => .ok (f a b)

/-- An operation on the digits of numbers to the base two. -/
def bitwise (f : Int64 → Int64 → Int64) : Operation := fun a b =>
  .ok (f (Int64.ofInt a) (Int64.ofInt b)).toInt

/-- The operators of each level, weakest level first.  An operator that begins like
another one comes before it. -/
def operators : List (List (String × Operation)) :=
  [ [("||", always fun a b => truth (a != 0 || b != 0))],
    [("&&", always fun a b => truth (a != 0 && b != 0))],
    [("|", bitwise (· ||| ·))],
    [("^", bitwise (· ^^^ ·))],
    [("&", bitwise (· &&& ·))],
    [("==", always fun a b => truth (a == b)), ("!=", always fun a b => truth (a != b))],
    [("<=", always fun a b => truth (a ≤ b)), (">=", always fun a b => truth (b ≤ a)),
      ("<", always fun a b => truth (a < b)), (">", always fun a b => truth (b < a))],
    [("<<", bitwise (· <<< ·)), (">>", bitwise (· >>> ·))],
    [("+", always (· + ·)), ("-", always (· - ·))],
    [("*", always (· * ·)),
      ("/", fun a b => if b = 0 then .error .divisionByZero else .ok (a.tdiv b)),
      ("%", fun a b => if b = 0 then .error .divisionByZero else .ok (a.tmod b))] ]

/-- The operators that give a name a new value, with what they do to the old one. -/
def assigning : List (String × Operation) :=
  [("<<=", bitwise (· <<< ·)), (">>=", bitwise (· >>> ·)), ("+=", always (· + ·)),
    ("-=", always (· - ·)), ("*=", always (· * ·)),
    ("/=", fun a b => if b = 0 then .error .divisionByZero else .ok (a.tdiv b)),
    ("%=", fun a b => if b = 0 then .error .divisionByZero else .ok (a.tmod b)),
    ("&=", bitwise (· &&& ·)), ("|=", bitwise (· ||| ·)), ("^=", bitwise (· ^^^ ·)),
    ("=", always fun _ b => b)]

/-- The blanks of a sum. -/
def skipSumSpace (cs : List Char) : List Char := cs.dropWhile fun c => c = ' ' || c = '\t' || c = '\n'

/-- The operator that comes next, with what follows it.  A sign that is doubled is
not the single one. -/
def nextOperator? (cs : List Char) : List (String × Operation) → Option (Operation × List Char)
  | [] => none
  | (symbol, f) :: others =>
      match dropStart? symbol.toList cs with
      | some rest =>
          if symbol.length = 1 && rest.head? = cs.head? && (symbol = "&" || symbol = "|") then none
          else if symbol = "=" && rest.head? = some '=' then none
          else some (f, rest)
      | none => nextOperator? cs others

/-! ## Evaluation -/

/-- What is left of a sum, and the names that were given a value, last first. -/
structure SumState where
  /-- What is left to be read. -/
  rest : List Char
  /-- The new values. -/
  assigned : List (String × Int)

/-- A step of an evaluation. -/
abbrev Summing := StateT SumState (Except SumFault)

/-- Skips blanks and gives what comes next. -/
def upcoming : Summing (List Char) := do
  modify fun s => { s with rest := skipSumSpace s.rest }
  return (← get).rest

/-- Goes on behind something that was read. -/
def goOn (rest : List Char) : Summing Unit := modify fun s => { s with rest }

/-- The value of a name. -/
def valueOf (value : String → String) (name : String) : Summing Int := do
  match (← get).assigned.lookup name with
  | some a => return a
  | none =>
      let text := value name
      let cs := text.toList.dropWhile (· == ' ')
      if cs.isEmpty then return 0
      else
        match cs with
        | '-' :: ds => match constant? ds with
            | some a => return -a
            | none => throw (.noNumber text)
        | ds => match constant? ds with
            | some a => return a
            | none => throw (.noNumber text)

mutual

/-- Evaluates a choice between two values, or a sum. -/
def sumChoice (value : String → String) : Nat → Summing Int
  | 0 => throw .noOperand
  | n + 1 => do
      let condition ← sumLevels value n operators
      match ← upcoming with
      | '?' :: rest =>
          goOn rest
          let whenTrue ← sumChoice value n
          match ← upcoming with
          | ':' :: rest =>
              goOn rest
              let whenFalse ← sumChoice value n
              return if condition != 0 then whenTrue else whenFalse
          | _ => throw .noOperand
      | _ => return condition

/-- Evaluates operands joined by the operators of the first level, or of stronger
ones. -/
def sumLevels (value : String → String) : Nat → List (List (String × Operation)) → Summing Int
  | 0, _ => throw .noOperand
  | n + 1, [] => sumOperand value n
  | n + 1, level :: stronger => do
      let a ← sumLevels value n stronger
      sumJoined value n level stronger a

/-- Evaluates what is joined to an operand by the operators of a level. -/
def sumJoined (value : String → String) :
    Nat → List (String × Operation) → List (List (String × Operation)) → Int → Summing Int
  | 0, _, _, _ => throw .noOperand
  | n + 1, level, stronger, a => do
      match nextOperator? (← upcoming) level with
      | none => return a
      | some (f, rest) =>
          goOn rest
          let b ← sumLevels value n stronger
          sumJoined value n level stronger (← f a b)

/-- Evaluates an operand. -/
def sumOperand (value : String → String) : Nat → Summing Int
  | 0 => throw .noOperand
  | n + 1 => do
      match ← upcoming with
      | '(' :: rest =>
          goOn rest
          let a ← sumChoice value n
          match ← upcoming with
          | ')' :: left => goOn left; return a
          | _ => throw .unclosed
      | '-' :: rest => goOn rest; return -(← sumOperand value n)
      | '+' :: rest => goOn rest; sumOperand value n
      | '~' :: rest => goOn rest; return -(← sumOperand value n) - 1
      | '!' :: rest => goOn rest; return truth ((← sumOperand value n) == 0)
      | cs =>
          let word := cs.takeWhile isNameChar
          goOn (cs.dropWhile isNameChar)
          if isName word then
            let name := String.ofList word
            match nextOperator? (← upcoming) assigning with
            | none => valueOf value name
            | some (f, rest) =>
                goOn rest
                let new ← sumChoice value n
                let result ← f (← valueOf value name) new
                modify fun s => { s with assigned := (name, result) :: s.assigned }
                return result
          else
            match constant? word with
            | some a => return a
            | none => throw (if word.isEmpty then .noOperand else .noEnd)

end

/-- The value of a sum and the new values of names; `value` gives their old ones. -/
def sum (value : String → String) (cs : List Char) :
    Except SumFault (Int × List (String × Int)) :=
  if (skipSumSpace cs).isEmpty then .ok (0, [])
  else do
    let (a, s) ← (sumChoice value (16 * cs.length + 32)).run ⟨cs, []⟩
    if (skipSumSpace s.rest).isEmpty then return (a, s.assigned) else throw .noEnd

example : (sum (fun _ => "4") "2 * (x + 1) % 7 == 3".toList).toOption.map Prod.fst = some 1 := by
  decide +kernel

end TestCensus.Shell
