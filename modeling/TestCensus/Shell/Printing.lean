import TestCensus.Shell.Arithmetic
import TestCensus.Text.Kept

/-!
# Printing

Texts that are printed may hold escapes: a backslash and a letter, or the octal
digits of a byte.  A format holds escapes and places for arguments.  It is used as
often as it takes to print all arguments, and arguments that are missing in the
last round are empty.
-/

namespace TestCensus.Shell

open TestCensus.Text

/-- The bytes of characters. -/
def bytesOf (cs : List Char) : List UInt8 := keptBytes (String.ofList cs)

/-- An octal digit. -/
def isOctal (c : Char) : Bool := '0' ≤ c && c ≤ '7'

/-- The byte that octal digits give. -/
def octalByte (cs : List Char) : UInt8 :=
  UInt8.ofNat (cs.foldl (fun n c => n * 8 + (c.toNat - '0'.toNat)) 0)

/-- Up to `n` octal digits and what follows them. -/
def takeOctal : Nat → List Char → List Char × List Char
  | 0, cs => ([], cs)
  | _, [] => ([], [])
  | n + 1, c :: rest =>
      if isOctal c then let (ds, left) := takeOctal n rest; (c :: ds, left) else ([], c :: rest)

/-- What an escape letter stands for. -/
def escapeLetter? : Char → Option UInt8
  | 'a' => some 7
  | 'b' => some 8
  | 'f' => some 12
  | 'n' => some 10
  | 'r' => some 13
  | 't' => some 9
  | 'v' => some 11
  | '\\' => some 92
  | _ => none

/-- The bytes of an escape behind its backslash, and what follows it. -/
def escape (cs : List Char) : List UInt8 × List Char :=
  match cs with
  | [] => ([92], [])
  | c :: rest =>
      if isOctal c then
        let (ds, left) := takeOctal 3 (c :: rest)
        ([octalByte ds], left)
      else
        match escapeLetter? c with
        | some b => ([b], rest)
        | none => (92 :: bytesOf [c], rest)

/-- The bytes of a text with escapes, and whether it ends all printing.  An octal
escape may begin with a zero that does not count as a digit. -/
def escaped : Nat → List Char → List UInt8 × Bool
  | 0, _ => ([], false)
  | _, [] => ([], false)
  | _, '\\' :: 'c' :: _ => ([], true)
  | n + 1, '\\' :: '0' :: rest =>
      let (ds, left) := takeOctal 3 rest
      let (bytes, stops) := escaped n left
      (octalByte ds :: bytes, stops)
  | n + 1, '\\' :: rest =>
      let (first, left) := escape rest
      let (bytes, stops) := escaped n left
      (first ++ bytes, stops)
  | n + 1, c :: rest =>
      let (bytes, stops) := escaped n rest
      (bytesOf [c] ++ bytes, stops)

/-- Words with spaces between them. -/
def spaced (words : List String) : List Char := (" ".intercalate words).toList

/-- What the shell's own `echo` prints. -/
def echoed (words : List String) : List UInt8 :=
  let (ends, words) := match words with
    | "-n" :: rest => (false, rest)
    | all => (true, all)
  let cs := spaced words
  let (bytes, stops) := escaped cs.length cs
  if ends && !stops then bytes ++ [10] else bytes

/-- What the program `echo` prints. -/
def echoedPlain (words : List String) : List UInt8 :=
  match words with
  | "-n" :: rest => bytesOf (spaced rest)
  | all => bytesOf (spaced all) ++ [10]

/-! ## Formats -/

/-- A text brought to a width. -/
def padded (flags : List Char) (width : Nat) (cs : List Char) : List Char :=
  let gap := width - cs.length
  if flags.contains '-' then cs ++ List.replicate gap ' '
  else if flags.contains '0' then
    match cs with
    | '-' :: ds => '-' :: (List.replicate gap '0' ++ ds)
    | ds => List.replicate gap '0' ++ ds
  else List.replicate gap ' ' ++ cs

/-- What is wrong with an argument that has to be a number. -/
def numberProblem? (argument : List Char) : Option String :=
  if argument.isEmpty || (integer? argument).isSome then none
  else
    let digits := argument.dropWhile fun c => c = '-' || c = '+'
    some (if digits.head?.any Char.isDigit then "not completely converted"
      else "expected numeric value")

/-- The number at the beginning of an argument. -/
def leadingNumber (argument : List Char) : Int :=
  match argument with
  | '-' :: ds => -(decimal (ds.takeWhile Char.isDigit) : Int)
  | '+' :: ds => decimal (ds.takeWhile Char.isDigit)
  | ds => decimal (ds.takeWhile Char.isDigit)

/-- An argument as a place of a format shows it. -/
def converted? (kind : Char) (precision : Option Nat) (argument : List Char) :
    Option (List Char) :=
  let number := leadingNumber argument
  match kind with
  | 's' => some (match precision with
      | some n => argument.take n
      | none => argument)
  | 'c' => some (argument.take 1)
  | 'd' | 'i' | 'u' => some (toString number).toList
  | 'x' => some (Nat.toDigits 16 number.toNat)
  | 'X' => some ((Nat.toDigits 16 number.toNat).map Char.toUpper)
  | 'o' => some (Nat.toDigits 8 number.toNat)
  | _ => none

/-- What a format printed. -/
structure Printed where
  /-- The bytes. -/
  bytes : List UInt8 := []
  /-- The arguments that are left. -/
  left : List String := []
  /-- Printing ends here. -/
  stops : Bool := false
  /-- What was wrong with arguments. -/
  problems : List String := []
  /-- A place of the format that cannot be used. -/
  invalid : Option String := none

/-- What was printed before something else. -/
def Printed.after (bytes : List UInt8) (p : Printed) : Printed := { p with bytes := bytes ++ p.bytes }

/-- A place of a format. -/
structure FormatPlace where
  /-- The flags. -/
  flags : List Char
  /-- The least number of characters. -/
  width : Nat
  /-- The precision. -/
  precision : Option Nat
  /-- What follows: the kind of the place and the rest of the format. -/
  rest : List Char

/-- Reads a place of a format up to its kind. -/
def FormatPlace.read (cs : List Char) : FormatPlace :=
  let isFlag (c : Char) := c = '-' || c = '0' || c = '+' || c = ' ' || c = '#'
  let afterFlags := cs.dropWhile isFlag
  let afterWidth := afterFlags.dropWhile Char.isDigit
  let (precision, rest) := match afterWidth with
    | '.' :: more => (some (decimal (more.takeWhile Char.isDigit)), more.dropWhile Char.isDigit)
    | _ => (none, afterWidth)
  ⟨cs.takeWhile isFlag, decimal (afterFlags.takeWhile Char.isDigit), precision, rest⟩

/-- One round of a format. -/
def formatRound : Nat → List Char → List String → Printed
  | 0, _, arguments => { left := arguments }
  | _, [], arguments => { left := arguments }
  | _, '\\' :: 'c' :: _, arguments => { left := arguments, stops := true }
  | n + 1, '\\' :: rest, arguments =>
      let (bytes, left) := escape rest
      (formatRound n left arguments).after bytes
  | n + 1, '%' :: '%' :: rest, arguments => (formatRound n rest arguments).after [37]
  | n + 1, '%' :: rest, arguments =>
      let place := FormatPlace.read rest
      let argument := (arguments.head?.getD "").toList
      match place.rest with
      | 'b' :: left =>
          let (bytes, stops) := escaped argument.length argument
          if stops then { bytes, left := arguments.tail, stops }
          else (formatRound n left arguments.tail).after bytes
      | kind :: left =>
          match converted? kind place.precision argument with
          | some cs =>
              let later := formatRound n left arguments.tail
              let problem := if kind = 's' || kind = 'c' then none else numberProblem? argument
              { later.after (bytesOf (padded place.flags place.width cs)) with
                problems := (problem.map (String.ofList argument ++ ": " ++ ·)).toList ++
                  later.problems }
          | none =>
              let shown := '%' :: rest.take (rest.length - left.length)
              { stops := true, invalid := some (String.ofList shown) }
      | [] => { stops := true, invalid := some (String.ofList ('%' :: rest)) }
  | n + 1, c :: rest, arguments => (formatRound n rest arguments).after (bytesOf [c])

/-- All rounds of a format, at most one more than there are arguments. -/
def formatted : Nat → List Char → List String → Printed
  | 0, _, _ => {}
  | n + 1, format, arguments =>
      let first := formatRound format.length format arguments
      if first.stops || first.left.isEmpty || first.left.length = arguments.length then first
      else
        let later := formatted n format first.left
        { later.after first.bytes with problems := first.problems ++ later.problems }

/-- What `printf` prints. -/
def printed (format : String) (arguments : List String) : Printed :=
  formatted (arguments.length + 1) format.toList arguments

end TestCensus.Shell
