import TestCensus.Text.Utf8

/-!
# Texts that keep all bytes

The name of a file is made of bytes, and so is what programs say.  Not all bytes are a text.  A
byte that belongs to no character is kept as one of the characters from U+D0080 to U+D00FF
(`strayChar`).  These are assigned to nothing; where bytes spell one of them, its bytes are kept
one by one.

* `keptText` reads bytes in this way, and `keptBytes` gives them back.
* `isExact` asks whether there is no such byte.
* `displayed` is the text that a reader sees.
-/

namespace TestCensus.Text

/-! ## Stray bytes -/

/-- The character that a stray byte is kept as. -/
def strayChar (b : UInt8) : Char := Char.ofNat (0xd0000 + b.toNat)

/-- The stray byte that is kept as the character, if one is. -/
def strayByte? (c : Char) : Option UInt8 :=
  if 0xd0080 ≤ c.toNat && c.toNat ≤ 0xd00ff then some (UInt8.ofNat (c.toNat - 0xd0000)) else none

/-- All bytes belong to characters. -/
def isExact (s : String) : Bool := s.toList.all fun c => (strayByte? c).isNone

/-! ## Bytes -/

/-- The bytes of a character, or the byte that is kept as it. -/
def charBytes (c : Char) : List UInt8 := (strayByte? c).elim (String.utf8EncodeChar c) fun b => [b]

/-- The bytes of a text. -/
def keptBytes (s : String) : List UInt8 := s.toList.flatMap charBytes

/-- The character that bytes begin with, and the bytes behind it.  A character that would not give
its bytes back is none. -/
def firstChar? (bytes : List UInt8) : Option (Char × List UInt8) :=
  [1, 2, 3, 4].findSome? fun n =>
    match decodeFrom .start (bytes.take n) with
    | [some c] => if charBytes c = bytes.take n then some (c, bytes.drop n) else none
    | _ => none

/-- Reads bytes in at most the given number of steps. -/
def keptFrom : Nat → List UInt8 → List Char
  | 0, _ => []
  | _ + 1, [] => []
  | n + 1, b :: rest =>
      match firstChar? (b :: rest) with
      | some (c, later) => c :: keptFrom n later
      | none => strayChar b :: keptFrom n rest

/-- The text of bytes. -/
def keptText (bytes : List UInt8) : String := String.ofList (keptFrom bytes.length bytes)

/-- The text as a reader sees it, with replacement characters in place of stray bytes. -/
def displayed (s : String) : String := decodeLossy (keptBytes s)

example : displayed (keptText [0x61, 0xe2, 0x82, 0x62, 0xfe]) = "a\uFFFDb\uFFFD" := by
  decide +kernel

end TestCensus.Text
