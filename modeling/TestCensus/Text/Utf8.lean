/-!
# Text as bytes

Files and the output of programs hold bytes.  A text is held in UTF-8, and bytes
are read by a machine that takes one byte at a time.  Between two characters it
waits for a first byte.  After the first byte of a longer character it knows how
many bytes are still owed and between which bounds the next of them must be; the
bounds rule out the long forms of short characters, the surrogates, and what is
above the last code point.

The machine emits characters, and one gap for each run of bytes that begins a
character and is broken off, or that cannot begin one.  A text is exact if there
are no gaps (`decode?`).  Read leniently, each gap gives a replacement character
(`decodeLossy`).
-/

namespace TestCensus.Text

/-- The bytes of a text. -/
def utf8 (s : String) : List UInt8 := s.toUTF8.data.toList

/-! ## The machine -/

/-- Where the machine stands. -/
inductive DecoderState where
  /-- Between two characters. -/
  | start
  /-- Inside a character: its bits so far, the bytes still owed after the next
  one, and the bounds of the next one. -/
  | inside (bits owed : Nat) (low high : UInt8)

/-- What the machine emits and where it stands after it. -/
structure DecoderStep where
  /-- The characters, and `none` for a gap. -/
  emitted : List (Option Char)
  /-- The state after it. -/
  state : DecoderState

/-- The step at the first byte of a character. -/
def decodeFirst (b : UInt8) : DecoderStep :=
  let n := b.toNat
  if n < 0x80 then ⟨[some (Char.ofNat n)], .start⟩
  else if n < 0xc2 then ⟨[none], .start⟩
  else if n < 0xe0 then ⟨[], .inside (n - 0xc0) 0 0x80 0xbf⟩
  else if n = 0xe0 then ⟨[], .inside 0 1 0xa0 0xbf⟩
  else if n = 0xed then ⟨[], .inside 0xd 1 0x80 0x9f⟩
  else if n < 0xf0 then ⟨[], .inside (n - 0xe0) 1 0x80 0xbf⟩
  else if n = 0xf0 then ⟨[], .inside 0 2 0x90 0xbf⟩
  else if n < 0xf4 then ⟨[], .inside (n - 0xf0) 2 0x80 0xbf⟩
  else if n = 0xf4 then ⟨[], .inside 4 2 0x80 0x8f⟩
  else ⟨[none], .start⟩

/-- The step at a byte.  A byte that does not belong to the character before it
leaves a gap there and is taken as a first byte. -/
def decodeByte : DecoderState → UInt8 → DecoderStep
  | .start, b => decodeFirst b
  | .inside bits owed low high, b =>
      if low ≤ b ∧ b ≤ high then
        let more := bits * 64 + (b.toNat - 0x80)
        match owed with
        | 0 => ⟨[some (Char.ofNat more)], .start⟩
        | n + 1 => ⟨[], .inside more n 0x80 0xbf⟩
      else
        let next := decodeFirst b
        ⟨none :: next.emitted, next.state⟩

/-- What the machine emits for bytes.  A character that the end breaks off is a
gap. -/
def decodeFrom : DecoderState → List UInt8 → List (Option Char)
  | .start, [] => []
  | .inside .., [] => [none]
  | state, b :: rest =>
      let step := decodeByte state b
      step.emitted ++ decodeFrom step.state rest

/-! ## Texts -/

/-- The text that bytes hold, if they hold one. -/
def decode? (bytes : List UInt8) : Option String :=
  ((decodeFrom .start bytes).mapM id).map String.ofList

/-- The text that bytes hold, with replacement characters in the gaps. -/
def decodeLossy (bytes : List UInt8) : String :=
  String.ofList ((decodeFrom .start bytes).map fun c => c.getD '\uFFFD')

example : decode? [0x61, 0xc3, 0xa9, 0xf0, 0x9f, 0x98, 0x80] = some "aé😀" := by decide +kernel

example : decode? [0xed, 0xa0, 0x80] = none := by decide +kernel

end TestCensus.Text
