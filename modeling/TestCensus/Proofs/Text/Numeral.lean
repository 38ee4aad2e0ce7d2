/-!
# Written numbers

A number is written in decimal digits without a zero before them.  Every format of
this library writes its numbers so, and a reader needs no more than that
(`IsNumeral`).
-/

namespace TestCensus.Text

/-- A number in decimal digits. -/
structure IsNumeral (n : Nat) (ds : List Char) : Prop where
  /-- There are only digits. -/
  decimal : ∀ d ∈ ds, d.isDigit = true
  /-- There is a digit, and zero leads nothing but itself. -/
  leading : ∃ d ds', ds = d :: ds' ∧ (d = '0' → ds' = [])
  /-- The digits give the number. -/
  value : Nat.ofDigitChars 10 ds 0 = n

/-- A digit is no other character. -/
theorem ne_of_isDigit {d x : Char} (hd : d.isDigit = true) (hx : x.isDigit = false) : d ≠ x := by
  rintro rfl
  exact Bool.false_ne_true (hx.symm.trans hd)

/-- Zero leads only the digits of zero. -/
theorem leading_toDigits (n : Nat) :
    ∃ d ds, Nat.toDigits 10 n = d :: ds ∧ (d = '0' → ds = []) ∧ (0 < n → d ≠ '0') := by
  induction n using Nat.strongRecOn with
  | ind n ih =>
      rw [Nat.toDigits_eq_if (by decide)]
      by_cases hn : n < 10
      · rw [if_pos hn]
        refine ⟨n.digitChar, [], rfl, fun _ => rfl, fun hpos hzero => ?_⟩
        have hsmall : ∀ m < 10, Nat.digitChar m = '0' → m = 0 := by decide
        exact absurd (hsmall n hn hzero) (Nat.ne_of_gt hpos)
      · rw [if_neg hn]
        obtain ⟨d, ds, hds, -, hne⟩ := ih (n / 10) (by omega)
        have hd : d ≠ '0' := hne (by omega)
        rw [hds]
        exact ⟨d, ds ++ [(n % 10).digitChar], rfl, fun h => absurd h hd, fun _ => hd⟩

theorem isNumeral_toString (n : Nat) : IsNumeral n (toString n).toList := by
  rw [Nat.toString_eq_repr, Nat.toList_repr]
  obtain ⟨d, ds, hds, hleading, -⟩ := leading_toDigits n
  exact
    { decimal := fun c hc => Nat.isDigit_of_mem_toDigits (by decide) (by decide) hc
      leading := ⟨d, ds, hds, hleading⟩
      value := Nat.ofDigitChars_toDigits (by decide) (by decide) }

end TestCensus.Text
