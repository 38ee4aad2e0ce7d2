import Mathlib.Data.List.Basic
import TestCensus.Text.Kept
import TestCensus.Proofs.Text.Utf8

/-!
# Texts that keep all bytes

The text of bytes gives the bytes back (`keptBytes_keptText`), whatever they are, and so a reader
sees of it what is read leniently from the bytes (`displayed_keptText`).  It is exact if the bytes
are those of an exact text, and then it is this text (`isExact_keptText_iff`).

All of this rests on what a first character is (`firstChar?_eq_some_iff`).  A byte below 0x80 is
always one, so stray bytes are those that have a character in their place (`charBytes_strayChar`).
-/

namespace TestCensus.Text

/-! ## Stray bytes -/

theorem strayByte?_strayChar {b : UInt8} (h : 0x80 ≤ b.toNat) :
    strayByte? (strayChar b) = some b := by
  have hbyte := b.toNat_lt
  have hchar : (strayChar b).toNat = 0xd0000 + b.toNat :=
    toNat_ofNat (.inr ⟨by omega, by omega⟩)
  have hwithin : (decide (0xd0080 ≤ (strayChar b).toNat) &&
      decide ((strayChar b).toNat ≤ 0xd00ff)) = true := by
    rw [hchar, Bool.and_eq_true, decide_eq_true_iff, decide_eq_true_iff]
    omega
  rw [strayByte?, if_pos hwithin, hchar, Nat.add_sub_cancel_left, UInt8.ofNat_toNat]

theorem le_toNat_of_strayByte? {c : Char} {b : UInt8} (h : strayByte? c = some b) :
    0x80 ≤ b.toNat := by
  unfold strayByte? at h
  split at h
  · rename_i hwithin
    rw [Bool.and_eq_true, decide_eq_true_iff, decide_eq_true_iff] at hwithin
    rw [← Option.some.inj h]
    have hbyte : (UInt8.ofNat (c.toNat - 0xd0000)).toNat = c.toNat - 0xd0000 :=
      toNat_byte (by omega)
    have hle : 0x80 ≤ c.toNat - 0xd0000 := by omega
    exact Nat.le_trans hle (Nat.le_of_eq hbyte.symm)
  · cases h

theorem strayByte?_ofNat {n : Nat} (h : n < 0x80) : strayByte? (Char.ofNat n) = none := by
  have hchar : (Char.ofNat n).toNat = n := toNat_ofNat (.inl (by omega))
  rw [strayByte?, hchar, if_neg]
  rw [Bool.and_eq_true, decide_eq_true_iff]
  omega

theorem charBytes_of_some {c : Char} {b : UInt8} (h : strayByte? c = some b) :
    charBytes c = [b] := by
  rw [charBytes, h, Option.elim_some]

/-- A character that stands for no stray byte has the bytes of a text. -/
theorem charBytes_of_none {c : Char} (h : strayByte? c = none) :
    charBytes c = String.utf8EncodeChar c := by
  rw [charBytes, h, Option.elim_none]

theorem charBytes_strayChar {b : UInt8} (h : 0x80 ≤ b.toNat) : charBytes (strayChar b) = [b] :=
  charBytes_of_some (strayByte?_strayChar h)

theorem charBytes_ne_nil (c : Char) : charBytes c ≠ [] := by
  unfold charBytes
  cases strayByte? c with
  | none => exact String.utf8EncodeChar_ne_nil
  | some b => exact List.cons_ne_nil _ _

/-! ## First characters -/

theorem firstChar?_sound {bytes later : List UInt8} {c : Char}
    (h : firstChar? bytes = some (c, later)) :
    strayByte? c = none ∧ bytes = charBytes c ++ later := by
  obtain ⟨n, -, hn⟩ := List.exists_of_findSome?_eq_some h
  split at hn
  · rename_i d hread
    split at hn
    · rename_i hbytes
      cases hn
      refine ⟨?_, by rw [hbytes, List.take_append_drop]⟩
      cases hstray : strayByte? c with
      | none => rfl
      | some b =>
          rw [← hbytes, charBytes_of_some hstray,
            decodeFrom_singleton (le_toNat_of_strayByte? hstray)] at hread
          cases hread
    · cases hn
  · cases hn

/-- The bytes of a character are never passed over. -/
theorem firstChar?_eq_none {c : Char} {later : List UInt8}
    (h : firstChar? (String.utf8EncodeChar c ++ later) = none) :
    charBytes c ≠ String.utf8EncodeChar c := by
  intro hbytes
  have hlength := String.length_utf8EncodeChar c
  have hread : decodeFrom .start (String.utf8EncodeChar c) = [some c] := by
    rw [← List.append_nil (String.utf8EncodeChar c), decodeFrom_utf8EncodeChar]
    rfl
  have hmem : c.utf8Size ∈ [1, 2, 3, 4] := by
    rcases c.utf8Size_eq with hsize | hsize | hsize | hsize
    all_goals rw [hsize]; decide
  have hnone := List.findSome?_eq_none_iff.1 h _ hmem
  rw [List.take_append_of_le_length (Nat.le_of_eq hlength.symm), ← hlength, List.take_length,
    hread] at hnone
  dsimp only at hnone
  rw [if_pos hbytes] at hnone
  cases hnone

theorem firstChar?_eq_some_iff {bytes later : List UInt8} {c : Char} :
    firstChar? bytes = some (c, later) ↔
      strayByte? c = none ∧ bytes = String.utf8EncodeChar c ++ later := by
  constructor
  · intro h
    obtain ⟨hstray, hbytes⟩ := firstChar?_sound h
    exact ⟨hstray, charBytes_of_none hstray ▸ hbytes⟩
  · rintro ⟨hstray, rfl⟩
    cases hfound : firstChar? (String.utf8EncodeChar c ++ later) with
    | none => exact absurd (charBytes_of_none hstray) (firstChar?_eq_none hfound)
    | some found =>
        obtain ⟨c', later'⟩ := found
        obtain ⟨hstray', hbytes⟩ := firstChar?_sound hfound
        rw [charBytes_of_none hstray'] at hbytes
        -- The machine reads the same bytes, so the characters are the same.
        have hread := decodeFrom_utf8EncodeChar c later
        rw [hbytes, decodeFrom_utf8EncodeChar] at hread
        obtain ⟨hchar, -⟩ := List.cons.inj hread
        cases hchar
        rw [List.append_cancel_left hbytes]

/-- A byte that begins no character is a stray one. -/
theorem le_toNat_of_firstChar? {b : UInt8} {rest : List UInt8}
    (h : firstChar? (b :: rest) = none) : 0x80 ≤ b.toNat := by
  by_contra hle
  have hshort : b.toNat < 0x80 := Nat.lt_of_not_le hle
  have hfound := firstChar?_eq_some_iff.2 ⟨strayByte?_ofNat hshort,
    (utf8EncodeChar_ofNat hshort ▸ rfl : b :: rest = _ ++ rest)⟩
  rw [h] at hfound
  cases hfound

/-! ## Bytes -/

theorem keptBytes_ofList (cs : List Char) :
    keptBytes (String.ofList cs) = cs.flatMap charBytes := by
  rw [keptBytes, String.toList_ofList]

theorem keptFrom_succ {n : Nat} {bytes later : List UInt8} {c : Char}
    (h : firstChar? bytes = some (c, later)) : keptFrom (n + 1) bytes = c :: keptFrom n later := by
  cases bytes with
  | nil => cases (h : none = some (c, later))
  | cons b rest => rw [keptFrom, h]

theorem flatMap_keptFrom {n : Nat} {bytes : List UInt8} (h : bytes.length ≤ n) :
    (keptFrom n bytes).flatMap charBytes = bytes := by
  induction n generalizing bytes with
  | zero =>
      rw [List.length_eq_zero_iff.1 (Nat.le_zero.1 h)]
      rfl
  | succ n ih =>
      cases bytes with
      | nil => rfl
      | cons b rest =>
          cases hfirst : firstChar? (b :: rest) with
          | none =>
              rw [keptFrom, hfirst]
              dsimp only
              rw [List.flatMap_cons, charBytes_strayChar (le_toNat_of_firstChar? hfirst),
                ih (Nat.le_of_succ_le_succ h), List.singleton_append]
          | some found =>
              obtain ⟨c, later⟩ := found
              obtain ⟨-, hbytes⟩ := firstChar?_sound hfirst
              have hpos := List.length_pos_iff.2 (charBytes_ne_nil c)
              have hlength := congrArg List.length hbytes
              rw [List.length_append] at hlength
              rw [keptFrom_succ hfirst, List.flatMap_cons, ih (by omega), hbytes]

/-- The text of bytes gives the bytes back. -/
theorem keptBytes_keptText (bytes : List UInt8) : keptBytes (keptText bytes) = bytes := by
  rw [keptText, keptBytes_ofList, flatMap_keptFrom (Nat.le_refl _)]

/-- A reader sees of the text of bytes what is read leniently from them. -/
theorem displayed_keptText (bytes : List UInt8) :
    displayed (keptText bytes) = decodeLossy bytes := by
  rw [displayed, keptBytes_keptText]

/-! ## Exact texts -/

theorem strayByte?_of_isExact {s : String} (h : isExact s = true) :
    ∀ c ∈ s.toList, strayByte? c = none := fun c hc =>
  Option.isNone_iff_eq_none.1 (List.all_eq_true.1 h c hc)

theorem keptBytes_of_isExact {s : String} (h : isExact s = true) : keptBytes s = utf8 s := by
  rw [keptBytes, utf8_eq_flatMap]
  exact List.flatMap_congr fun c hc => charBytes_of_none (strayByte?_of_isExact h c hc)

/-- A text without stray bytes is displayed as it is. -/
theorem displayed_of_isExact {s : String} (h : isExact s = true) : displayed s = s := by
  rw [displayed, keptBytes_of_isExact h, decodeLossy_utf8]

theorem keptFrom_flatMap {cs : List Char} (h : ∀ c ∈ cs, strayByte? c = none) {n : Nat}
    (hn : (cs.flatMap String.utf8EncodeChar).length ≤ n) :
    keptFrom n (cs.flatMap String.utf8EncodeChar) = cs := by
  induction cs generalizing n with
  | nil =>
      cases n with
      | zero => rfl
      | succ n => rfl
  | cons c rest ih =>
      rw [List.flatMap_cons] at hn ⊢
      have hpos := List.length_pos_iff.2 (String.utf8EncodeChar_ne_nil (c := c))
      rw [List.length_append] at hn
      cases n with
      | zero => omega
      | succ n =>
          rw [keptFrom_succ (firstChar?_eq_some_iff.2 ⟨h c (.head _), rfl⟩),
            ih (fun d hd => h d (.tail _ hd)) (by omega)]

/-- An exact text is the text of its bytes. -/
theorem keptText_utf8 {s : String} (h : isExact s = true) : keptText (utf8 s) = s := by
  rw [keptText, utf8_eq_flatMap, keptFrom_flatMap (strayByte?_of_isExact h) (Nat.le_refl _),
    String.ofList_toList]

/-- The text of bytes is exact if these are the bytes of an exact text. -/
theorem isExact_keptText_iff {bytes : List UInt8} :
    isExact (keptText bytes) = true ↔ ∃ s, isExact s = true ∧ bytes = utf8 s := by
  constructor
  · intro h
    exact ⟨keptText bytes, h, by rw [← keptBytes_of_isExact h, keptBytes_keptText]⟩
  · rintro ⟨s, hexact, rfl⟩
    rwa [keptText_utf8 hexact]

/-! ## What a reader sees -/

/-- Something is displayed of a text, unless it is empty. -/
theorem toList_displayed_ne_nil {s : String} (h : s.toList ≠ []) : (displayed s).toList ≠ [] := by
  have hbytes : keptBytes s ≠ [] := by
    obtain ⟨c, rest, hchars⟩ := List.exists_cons_of_ne_nil h
    rw [keptBytes, hchars, List.flatMap_cons]
    exact List.append_ne_nil_of_left_ne_nil (charBytes_ne_nil c) _
  rw [displayed, decodeLossy, String.toList_ofList]
  exact fun hnil => decodeFrom_ne_nil (.inr hbytes) (List.map_eq_nil_iff.1 hnil)

theorem slash_not_mem_displayed {s : String} (h : '/' ∉ s.toList) : '/' ∉ (displayed s).toList := by
  rw [displayed, decodeLossy, String.toList_ofList]
  intro hmem
  obtain ⟨emitted, hemitted, hslash⟩ := List.mem_map.1 hmem
  cases emitted with
  | none => exact absurd hslash (by decide)
  | some c =>
      cases (hslash : c = '/')
      obtain ⟨c, hc, hbyte⟩ := List.mem_flatMap.1 (slash_mem_of_decodeFrom hemitted)
      cases hstray : strayByte? c with
      | none =>
          rw [charBytes_of_none hstray] at hbyte
          exact h (eq_slash_of_mem hbyte ▸ hc)
      | some b =>
          rw [charBytes_of_some hstray, List.mem_singleton] at hbyte
          have hle := le_toNat_of_strayByte? hstray
          rw [← hbyte] at hle
          exact absurd hle (by decide)

end TestCensus.Text
