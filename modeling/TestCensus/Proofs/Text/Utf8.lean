import TestCensus.Text.Utf8

/-!
# Bytes read as texts

The machine reads the bytes of a character as this character (`decodeFrom_utf8EncodeChar`), so the
bytes of a text are read as this text, exactly and leniently (`decode?_utf8`, `decodeLossy_utf8`).
The content is in the first byte: it tells how many bytes follow, and its bounds for the second one
let through what no shorter character could say and what is no surrogate (`decodeFirst_three`,
`decodeFirst_four`).

Of other bytes the machine makes something as well: it passes over no byte (`decodeFrom_ne_nil`),
and it reads a slash only where a slash stands (`slash_mem_of_decodeFrom`).
-/

namespace TestCensus.Text

/-! ## Steps of the machine -/

theorem decodeFrom_cons (state : DecoderState) (b : UInt8) (rest : List UInt8) :
    decodeFrom state (b :: rest) =
      (decodeByte state b).emitted ++ decodeFrom (decodeByte state b).state rest := by
  cases state with
  | start => rfl
  | inside bits owed low high => rfl

theorem decodeFrom_first (b : UInt8) (rest : List UInt8) :
    decodeFrom .start (b :: rest) =
      (decodeFirst b).emitted ++ decodeFrom (decodeFirst b).state rest := rfl

/-- A byte within the bounds goes on with the character. -/
theorem decodeFrom_more {bits owed : Nat} {low high b : UInt8} (rest : List UInt8)
    (hlow : low ≤ b) (hhigh : b ≤ high) :
    decodeFrom (.inside bits (owed + 1) low high) (b :: rest) =
      decodeFrom (.inside (bits * 64 + (b.toNat - 0x80)) owed 0x80 0xbf) rest := by
  rw [decodeFrom_cons, decodeByte, if_pos ⟨hlow, hhigh⟩]
  rfl

/-- The last byte of a character ends it. -/
theorem decodeFrom_last {bits : Nat} {low high b : UInt8} (rest : List UInt8)
    (hlow : low ≤ b) (hhigh : b ≤ high) :
    decodeFrom (.inside bits 0 low high) (b :: rest) =
      some (Char.ofNat (bits * 64 + (b.toNat - 0x80))) :: decodeFrom .start rest := by
  rw [decodeFrom_cons, decodeByte, if_pos ⟨hlow, hhigh⟩]
  rfl

/-! ## Characters -/

theorem toNat_ofNat {n : Nat} (h : n.isValidChar) : (Char.ofNat n).toNat = n := by
  have hchar : Char.ofNat n = Char.ofNatAux n h := dif_pos h
  rw [hchar]
  rfl

theorem toNat_byte {n : Nat} (h : n < 256) : (UInt8.ofNat n).toNat = n := by
  rw [UInt8.toNat_ofNat', Nat.mod_eq_of_lt h]

theorem byte_within {m n : Nat} {b : UInt8} (hlow : m ≤ b.toNat) (hhigh : b.toNat ≤ n)
    (hbyte : n < 256) : UInt8.ofNat m ≤ b ∧ b ≤ UInt8.ofNat n := by
  rw [UInt8.le_iff_toNat_le, UInt8.le_iff_toNat_le, toNat_byte (by omega), toNat_byte hbyte]
  exact ⟨hlow, hhigh⟩

/-- What the machine waits for after the first byte of three. -/
theorem decodeFirst_three {n : Nat} (hlow : 0xe0 ≤ n) (hhigh : n < 0xf0) :
    ∃ low high, decodeFirst (UInt8.ofNat n) = ⟨[], .inside (n - 0xe0) 1 low high⟩ ∧
      ∀ b : UInt8, 0x80 ≤ b.toNat → b.toNat ≤ 0xbf → (n = 0xe0 → 0xa0 ≤ b.toNat) →
        (n = 0xed → b.toNat ≤ 0x9f) → low ≤ b ∧ b ≤ high := by
  have hbyte : (UInt8.ofNat n).toNat = n := toNat_byte (by omega)
  unfold decodeFirst
  simp only [hbyte]
  rw [if_neg (by omega), if_neg (by omega), if_neg (by omega)]
  split
  · rename_i hn
    rw [hn]
    exact ⟨_, _, rfl, fun b _ hb ha _ => byte_within (ha rfl) hb (by decide)⟩
  · split
    · rename_i hn
      rw [hn]
      exact ⟨_, _, rfl, fun b hb _ _ ha => byte_within hb (ha rfl) (by decide)⟩
    · exact ⟨_, _, rfl, fun b hb hb' _ _ => byte_within hb hb' (by decide)⟩

/-- What the machine waits for after the first byte of four. -/
theorem decodeFirst_four {n : Nat} (hlow : 0xf0 ≤ n) (hhigh : n ≤ 0xf4) :
    ∃ low high, decodeFirst (UInt8.ofNat n) = ⟨[], .inside (n - 0xf0) 2 low high⟩ ∧
      ∀ b : UInt8, 0x80 ≤ b.toNat → b.toNat ≤ 0xbf → (n = 0xf0 → 0x90 ≤ b.toNat) →
        (n = 0xf4 → b.toNat ≤ 0x8f) → low ≤ b ∧ b ≤ high := by
  have hbyte : (UInt8.ofNat n).toNat = n := toNat_byte (by omega)
  unfold decodeFirst
  simp only [hbyte]
  rw [if_neg (by omega), if_neg (by omega), if_neg (by omega), if_neg (by omega), if_neg (by omega),
    if_neg (by omega)]
  split
  · rename_i hn
    rw [hn]
    exact ⟨_, _, rfl, fun b _ hb ha _ => byte_within (ha rfl) hb (by decide)⟩
  · split
    · exact ⟨_, _, rfl, fun b hb hb' _ _ => byte_within hb hb' (by decide)⟩
    · rename_i hn
      have hlast : n = 0xf4 := by omega
      rw [hlast]
      exact ⟨_, _, rfl, fun b hb _ _ ha => byte_within hb (ha rfl) (by decide)⟩

theorem decodeFrom_first_one {n : Nat} (h : n < 0x80) (rest : List UInt8) :
    decodeFrom .start (UInt8.ofNat n :: rest) = some (Char.ofNat n) :: decodeFrom .start rest := by
  have hfirst : decodeFirst (UInt8.ofNat n) = ⟨[some (Char.ofNat n)], .start⟩ := by
    unfold decodeFirst
    simp only [toNat_byte (show n < 256 by omega)]
    rw [if_pos h]
  rw [decodeFrom_cons, decodeByte, hfirst]
  rfl

theorem decodeFrom_first_two {n : Nat} (hlow : 0xc2 ≤ n) (hhigh : n < 0xe0) (rest : List UInt8) :
    decodeFrom .start (UInt8.ofNat n :: rest) =
      decodeFrom (.inside (n - 0xc0) 0 0x80 0xbf) rest := by
  have hfirst : decodeFirst (UInt8.ofNat n) = ⟨[], .inside (n - 0xc0) 0 0x80 0xbf⟩ := by
    unfold decodeFirst
    simp only [toNat_byte (show n < 256 by omega)]
    rw [if_neg (by omega), if_neg (by omega), if_pos hhigh]
  rw [decodeFrom_cons, decodeByte, hfirst]
  rfl

/-- The byte of a character that holds the last six bits of a number. -/
def tailByte (n : Nat) : UInt8 := UInt8.ofNat (n % 64 + 0x80)

theorem toNat_tailByte (n : Nat) : (tailByte n).toNat = n % 64 + 0x80 := toNat_byte (by omega)

theorem tailByte_bounds (n : Nat) : 0x80 ≤ tailByte n ∧ tailByte n ≤ 0xbf := by
  have hbyte := toNat_tailByte n
  exact byte_within (m := 0x80) (n := 0xbf) (by omega) (by omega) (by decide)

theorem decodeFrom_tail {bits owed n : Nat} {low high : UInt8} (rest : List UInt8)
    (h : low ≤ tailByte n ∧ tailByte n ≤ high) :
    decodeFrom (.inside bits (owed + 1) low high) (tailByte n :: rest) =
      decodeFrom (.inside (bits * 64 + n % 64) owed 0x80 0xbf) rest := by
  rw [decodeFrom_more _ h.1 h.2, toNat_tailByte, Nat.add_sub_cancel]

theorem decodeFrom_lastTail {bits n : Nat} {low high : UInt8} (rest : List UInt8)
    (h : low ≤ tailByte n ∧ tailByte n ≤ high) :
    decodeFrom (.inside bits 0 low high) (tailByte n :: rest) =
      some (Char.ofNat (bits * 64 + n % 64)) :: decodeFrom .start rest := by
  rw [decodeFrom_last _ h.1 h.2, toNat_tailByte, Nat.add_sub_cancel]

/-- The machine reads the bytes of a character as this character. -/
theorem decodeFrom_utf8EncodeChar (c : Char) (rest : List UInt8) :
    decodeFrom .start (String.utf8EncodeChar c ++ rest) = some c :: decodeFrom .start rest := by
  have hvalid : c.toNat < 0xd800 ∨ 0xdfff < c.toNat ∧ c.toNat < 0x110000 := c.valid
  have hread : ∀ v, v = c.toNat → some (Char.ofNat v) = some c := by
    rintro v rfl
    rw [Char.ofNat_toNat]
  unfold String.utf8EncodeChar
  dsimp only
  rw [show c.val.toNat = c.toNat from rfl]
  generalize c.toNat = v at hvalid hread
  split
  · rw [List.singleton_append, decodeFrom_first_one (by omega), hread v rfl]
  · split
    · change decodeFrom .start (UInt8.ofNat (v / 64 % 32 + 0xc0) :: tailByte v :: rest) = _
      rw [decodeFrom_first_two (by omega) (by omega), decodeFrom_lastTail _ (tailByte_bounds v),
        hread _ (by omega)]
    · split
      · change decodeFrom .start
          (UInt8.ofNat (v / 4096 % 16 + 0xe0) :: tailByte (v / 64) :: tailByte v :: rest) = _
        obtain ⟨low, high, hfirst, hbounds⟩ :=
          decodeFirst_three (n := v / 4096 % 16 + 0xe0) (by omega) (by omega)
        have hbyte := toNat_tailByte (v / 64)
        have hsecond := hbounds (tailByte (v / 64)) (by omega) (by omega) (by omega) (by omega)
        rw [decodeFrom_first, hfirst, List.nil_append, decodeFrom_tail _ hsecond,
          decodeFrom_lastTail _ (tailByte_bounds v), hread _ (by omega)]
      · change decodeFrom .start (UInt8.ofNat (v / 262144 % 8 + 0xf0) :: tailByte (v / 4096) ::
          tailByte (v / 64) :: tailByte v :: rest) = _
        obtain ⟨low, high, hfirst, hbounds⟩ :=
          decodeFirst_four (n := v / 262144 % 8 + 0xf0) (by omega) (by omega)
        have hbyte := toNat_tailByte (v / 4096)
        have hsecond := hbounds (tailByte (v / 4096)) (by omega) (by omega) (by omega) (by omega)
        rw [decodeFrom_first, hfirst, List.nil_append, decodeFrom_tail _ hsecond,
          decodeFrom_tail _ (tailByte_bounds (v / 64)), decodeFrom_lastTail _ (tailByte_bounds v),
          hread _ (by omega)]

/-- A slash stands in the bytes of a slash only. -/
theorem eq_slash_of_mem {c : Char} (h : 0x2f ∈ String.utf8EncodeChar c) : c = '/' := by
  have hlong : ∀ n, 0x80 ≤ n → n < 256 → (0x2f : UInt8) ≠ UInt8.ofNat n := by
    intro n hn hbyte heq
    have hnat := toNat_byte hbyte
    rw [← heq] at hnat
    exact absurd hn (hnat ▸ by decide)
  unfold String.utf8EncodeChar at h
  dsimp only at h
  split at h
  · have hnat := congrArg UInt8.toNat (List.mem_singleton.1 h)
    rw [toNat_byte (by omega)] at hnat
    exact Char.toNat_inj.1 hnat.symm
  · split at h
    · simp only [List.mem_cons, List.not_mem_nil, or_false] at h
      rcases h with h | h
      all_goals exact absurd h (hlong _ (by omega) (by omega))
    · split at h
      · simp only [List.mem_cons, List.not_mem_nil, or_false] at h
        rcases h with h | h | h
        all_goals exact absurd h (hlong _ (by omega) (by omega))
      · simp only [List.mem_cons, List.not_mem_nil, or_false] at h
        rcases h with h | h | h | h
        all_goals exact absurd h (hlong _ (by omega) (by omega))

/-- A short character is its own byte. -/
theorem utf8EncodeChar_ofNat {b : UInt8} (h : b.toNat < 0x80) :
    String.utf8EncodeChar (Char.ofNat b.toNat) = [b] := by
  have hchar : (Char.ofNat b.toNat).val.toNat = b.toNat := toNat_ofNat (.inl (by omega))
  rw [String.utf8EncodeChar, hchar, if_pos (by omega), UInt8.ofNat_toNat]

/-! ## Texts -/

theorem utf8_eq_flatMap (s : String) : utf8 s = s.toList.flatMap String.utf8EncodeChar := by
  have hbytes : s.toByteArray = s.toList.utf8Encode := by
    rw [← String.toByteArray_ofList, String.ofList_toList]
  rw [utf8, String.toUTF8_eq_toByteArray, hbytes, List.utf8Encode, List.data_toByteArray]

/-- The bytes of a text are those of its parts. -/
theorem utf8_append (cs ds : List Char) :
    utf8 (String.ofList (cs ++ ds)) = utf8 (String.ofList cs) ++ utf8 (String.ofList ds) := by
  simp only [utf8_eq_flatMap, String.toList_ofList, List.flatMap_append]

theorem decodeFrom_flatMap (cs : List Char) :
    decodeFrom .start (cs.flatMap String.utf8EncodeChar) = cs.map some := by
  induction cs with
  | nil => rfl
  | cons c rest ih => rw [List.flatMap_cons, decodeFrom_utf8EncodeChar, ih, List.map_cons]

/-- The bytes of a text hold this text. -/
theorem decode?_utf8 (s : String) : decode? (utf8 s) = some s := by
  have hexact : ∀ cs : List Char, (cs.map some).mapM id = some cs := by
    intro cs
    induction cs with
    | nil => rfl
    | cons c rest ih =>
        rw [List.map_cons, List.mapM_cons, ih]
        rfl
  rw [decode?, utf8_eq_flatMap, decodeFrom_flatMap, hexact, Option.map_some, String.ofList_toList]

/-- The bytes of a text are read leniently as this text. -/
theorem decodeLossy_utf8 (s : String) : decodeLossy (utf8 s) = s := by
  rw [decodeLossy, utf8_eq_flatMap, decodeFrom_flatMap, List.map_map]
  exact (congrArg String.ofList (List.map_id _)).trans String.ofList_toList

/-! ## Bytes that are no text -/

/-- A byte from 0x80 on is no character. -/
theorem decodeFrom_singleton {b : UInt8} (h : 0x80 ≤ b.toNat) : decodeFrom .start [b] = [none] := by
  rw [decodeFrom_first]
  unfold decodeFirst
  dsimp only
  rw [if_neg (Nat.not_lt.2 h)]
  repeat' split
  all_goals rfl

/-- After a first byte the machine has emitted something or waits for more bytes. -/
theorem state_decodeFirst {b : UInt8} :
    (decodeFirst b).emitted = [] → (decodeFirst b).state ≠ .start := by
  unfold decodeFirst
  dsimp only
  repeat' split
  all_goals simp

theorem state_decodeByte {state : DecoderState} {b : UInt8} :
    (decodeByte state b).emitted = [] → (decodeByte state b).state ≠ .start := by
  unfold decodeByte
  split
  · exact state_decodeFirst
  · split
    · split
      · simp
      · simp
    · simp

/-- The machine passes over no byte. -/
theorem decodeFrom_ne_nil {state : DecoderState} {bytes : List UInt8}
    (h : state ≠ .start ∨ bytes ≠ []) : decodeFrom state bytes ≠ [] := by
  induction bytes generalizing state with
  | nil =>
      cases state with
      | start => exact absurd rfl (h.resolve_right fun hne => hne rfl)
      | inside bits owed low high => exact List.cons_ne_nil _ _
  | cons b rest ih =>
      rw [decodeFrom_cons]
      intro hnil
      obtain ⟨hemitted, hrest⟩ := List.append_eq_nil_iff.1 hnil
      exact ih (.inl (state_decodeByte hemitted)) hrest

/-- A number with six more bits, all zero, for each byte that is owed. -/
def padded (n : Nat) : Nat → Nat
  | 0 => n
  | owed + 1 => padded (n * 64) owed

theorem padded_mono {m n : Nat} (h : m ≤ n) (owed : Nat) : padded m owed ≤ padded n owed := by
  induction owed generalizing m n with
  | zero => exact h
  | succ owed ih => exact ih (Nat.mul_le_mul_right 64 h)

/-- Whatever bytes follow within the bounds, the character is none of the short ones. -/
def DecoderState.IsLong : DecoderState → Prop
  | .start => True
  | .inside bits owed low _ =>
      0x80 ≤ low.toNat ∧ 0x80 ≤ padded (bits * 64 + (low.toNat - 0x80)) owed

theorem eq_of_slash_eq {n : Nat} (h : '/' = Char.ofNat n) : n = 0x2f := by
  by_cases hvalid : n.isValidChar
  · rw [← toNat_ofNat hvalid, ← h]
    rfl
  · have hchar : Char.ofNat n = '\x00' := dif_neg hvalid
    exact absurd (h.trans hchar) (by decide)

/-- After a first byte the machine waits for the rest of a long character, and a slash has been
emitted only for a slash. -/
theorem isLong_decodeFirst (b : UInt8) :
    (decodeFirst b).state.IsLong ∧ (some '/' ∈ (decodeFirst b).emitted → b = 0x2f) := by
  unfold decodeFirst
  dsimp only
  split
  · exact ⟨trivial, fun hslash => UInt8.toNat_inj.1
      (eq_of_slash_eq (Option.some.inj (List.mem_singleton.1 hslash)))⟩
  · repeat' split
    all_goals simp [DecoderState.IsLong, padded]
    all_goals omega

theorem isLong_decodeByte {state : DecoderState} (h : state.IsLong) (b : UInt8) :
    (decodeByte state b).state.IsLong ∧ (some '/' ∈ (decodeByte state b).emitted → b = 0x2f) := by
  unfold decodeByte
  split
  · exact isLong_decodeFirst b
  · rename_i bits owed low high
    split
    · rename_i hwithin
      have hlow := UInt8.le_iff_toNat_le.1 hwithin.1
      obtain ⟨hbyte, hlong⟩ := h
      split
      · refine ⟨trivial, fun hslash => ?_⟩
        have hvalue := eq_of_slash_eq (Option.some.inj (List.mem_singleton.1 hslash))
        rw [padded] at hlong
        omega
      · rename_i n
        refine ⟨⟨by decide, ?_⟩, fun hslash => by cases hslash⟩
        have hmore : bits * 64 + (low.toNat - 0x80) ≤ bits * 64 + (b.toNat - 0x80) := by omega
        have hzero : (0x80 : UInt8).toNat - 0x80 = 0 := rfl
        rw [hzero, Nat.add_zero]
        rw [padded] at hlong
        exact Nat.le_trans hlong (padded_mono (Nat.mul_le_mul_right 64 hmore) n)
    · obtain ⟨hnext, hslash⟩ := isLong_decodeFirst b
      exact ⟨hnext, fun h => hslash ((List.mem_cons.1 h).resolve_left fun h => by cases h)⟩

theorem slash_mem_of_isLong {state : DecoderState} {bytes : List UInt8} (hstate : state.IsLong)
    (h : some '/' ∈ decodeFrom state bytes) : 0x2f ∈ bytes := by
  induction bytes generalizing state with
  | nil =>
      cases state with
      | start => cases h
      | inside bits owed low high => cases List.mem_singleton.1 h
  | cons b rest ih =>
      rw [decodeFrom_cons] at h
      obtain ⟨hnext, hslash⟩ := isLong_decodeByte hstate b
      rcases List.mem_append.1 h with h | h
      · exact hslash h ▸ .head _
      · exact .tail _ (ih hnext h)

/-- The machine reads a slash only where a slash stands. -/
theorem slash_mem_of_decodeFrom {bytes : List UInt8} (h : some '/' ∈ decodeFrom .start bytes) :
    0x2f ∈ bytes := by
  have hstart : DecoderState.start.IsLong := trivial
  exact slash_mem_of_isLong hstart h

end TestCensus.Text
