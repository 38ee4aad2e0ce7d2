import TestCensus.Number.Binary64
import Mathlib.Algebra.Order.Field.Power
import Mathlib.Data.Rat.Cast.Order
import Mathlib.Tactic.FieldSimp
import Mathlib.Tactic.Linarith
import Mathlib.Tactic.NormNum
import Mathlib.Tactic.Positivity
import Mathlib.Tactic.Ring

/-!
# Rounding to 53 bits

A number of 53 bits has an exact rational value (`Binary64.value`), and the operations give
the number nearest to the exact result.

*Whole numbers.*  `IsNearest q m` says that `m` is the whole number nearest to `q`, and the
even one of two.  There is one for each `q`, it grows with `q` (`IsNearest.mono`), and
`halfEven` finds it.

*Numbers of 53 bits.*  `Rounds q x` says that `x` is the number nearest to `q`: in units in
which `q` has 53 bits before the point, it is the nearest whole number.  Conversion,
product and quotient round the exact result (`rounds_ofNat`, `rounds_mul`, `rounds_div`).

*Laws.*  Everything else follows from `Rounds` alone: rounding is monotone
(`Rounds.mono`), keeps what has 53 bits (`Rounds.value_eq`), is off by at most the `2 ^ 53`th
part (`Rounds.error`), and a number stays at or below its neighbour exactly up to the
middle between the two (`Rounds.value_le_iff`, `Rounds.le_value_iff`).
-/

namespace TestCensus.Number

/-! ## Whole numbers -/

/-- The whole number is nearest to the rational, and it is even if there are two. -/
structure IsNearest (q : ℚ) (m : ℕ) : Prop where
  /-- It is at most half a unit above. -/
  lower : (m : ℚ) - 1 / 2 ≤ q
  /-- It is at most half a unit below. -/
  upper : q ≤ m + 1 / 2
  /-- It is even if it is half a unit above. -/
  lower_even : q = m - 1 / 2 → m % 2 = 0
  /-- It is even if it is half a unit below. -/
  upper_even : q = m + 1 / 2 → m % 2 = 0

/-- At half a unit the even number is taken. -/
theorem halfEven_even (n d : Nat) (hd : 0 < d)
    (h : 2 * (halfEven n d * d) = 2 * n + d ∨ 2 * n = 2 * (halfEven n d * d) + d) :
    halfEven n d % 2 = 0 := by
  have hdiv : d * (n / d) + n % d = n := Nat.div_add_mod n d
  have hmod : n % d < d := Nat.mod_lt n hd
  have hup : (n / d + 1) * d = d * (n / d) + d := by
    rw [Nat.add_mul, Nat.one_mul, Nat.mul_comm]
  have hdown : n / d * d = d * (n / d) := Nat.mul_comm _ _
  unfold halfEven at h ⊢
  simp only at h ⊢
  split at h
  · rw [hdown] at h
    omega
  · split at h
    · rw [hup] at h
      omega
    · split at h
      · rename_i hlow hhigh heven
        rw [if_neg hlow, if_neg hhigh, if_pos heven]
        exact heven
      · rename_i hlow hhigh hodd
        rw [if_neg hlow, if_neg hhigh, if_neg hodd]
        omega

theorem isNearest_halfEven (n d : Nat) (hd : 0 < d) : IsNearest (n / d) (halfEven n d) := by
  have hd' : (0 : ℚ) < d := by exact_mod_cast hd
  obtain ⟨hlower, hupper⟩ := halfEven_near n d hd
  have heven := halfEven_even n d hd
  have hlower' : 2 * ((halfEven n d : ℚ) * d) ≤ 2 * n + d := by exact_mod_cast hlower
  have hupper' : 2 * (n : ℚ) ≤ 2 * (halfEven n d * d) + d := by exact_mod_cast hupper
  constructor
  · rw [le_div_iff₀ hd']
    linarith
  · rw [div_le_iff₀ hd']
    linarith
  · intro h
    rw [div_eq_iff hd'.ne'] at h
    have htie : 2 * ((halfEven n d : ℚ) * d) = 2 * n + d := by linarith
    exact heven (Or.inl (by exact_mod_cast htie))
  · intro h
    rw [div_eq_iff hd'.ne'] at h
    have htie : 2 * (n : ℚ) = 2 * (halfEven n d * d) + d := by linarith
    exact heven (Or.inr (by exact_mod_cast htie))

namespace IsNearest

variable {q r : ℚ} {m n k : ℕ}

/-- The nearest number grows with what it is nearest to. -/
theorem mono (h : IsNearest q m) (h' : IsNearest r n) (hle : q ≤ r) : m ≤ n := by
  by_contra hlt
  have hlt' : (n : ℚ) + 1 ≤ m := by exact_mod_cast Nat.lt_of_not_le hlt
  have hq : q = m - 1 / 2 := by linarith [h.lower, h'.upper]
  have hr : r = n + 1 / 2 := by linarith [h.lower, h'.upper]
  have hm := h.lower_even hq
  have hn := h'.upper_even hr
  have hnext : (m : ℚ) = n + 1 := by linarith
  have hnext' : m = n + 1 := by exact_mod_cast hnext
  omega

theorem unique (h : IsNearest q m) (h' : IsNearest q n) : m = n :=
  Nat.le_antisymm (h.mono h' le_rfl) (h'.mono h le_rfl)

theorem of_natCast (n : ℕ) : IsNearest n n where
  lower := by linarith
  upper := by linarith
  lower_even h := by linarith
  upper_even h := by linarith

/-- A whole number is nearest to itself. -/
theorem eq_of_natCast (h : IsNearest (n : ℚ) m) : m = n := h.unique (of_natCast n)

/-- What has 53 bits before the point keeps them. -/
theorem ge_least (h : IsNearest q m) (hq : 2 ^ 52 ≤ q) : (2 : ℚ) ^ 52 ≤ m := by
  have hle := (of_natCast (2 ^ 52)).mono h (by exact_mod_cast hq)
  exact_mod_cast hle

/-- What has no more than 53 bits before the point is at most rounded up to the next power of
two. -/
theorem le_most (h : IsNearest q m) (hq : q < 2 ^ 53) : (m : ℚ) ≤ 2 ^ 53 := by
  have hle := h.mono (of_natCast (2 ^ 53)) (by exact_mod_cast hq.le)
  exact_mod_cast hle

/-- An even number is reached up to half a unit above it. -/
theorem le_iff (h : IsNearest q m) (hk : k % 2 = 0) : m ≤ k ↔ q ≤ k + 1 / 2 := by
  constructor
  · intro hle
    have hle' : (m : ℚ) ≤ k := by exact_mod_cast hle
    linarith [h.upper]
  · intro hle
    by_contra hlt
    have hlt' : (k : ℚ) + 1 ≤ m := by exact_mod_cast Nat.lt_of_not_le hlt
    have hm := h.lower_even (by linarith [h.lower])
    have hnext : (m : ℚ) = k + 1 := by linarith [h.lower]
    have hnext' : m = k + 1 := by exact_mod_cast hnext
    omega

/-- An even number is reached from half a unit below it. -/
theorem ge_iff (h : IsNearest q m) (hk : k % 2 = 0) : k ≤ m ↔ (k : ℚ) - 1 / 2 ≤ q := by
  constructor
  · intro hle
    have hle' : (k : ℚ) ≤ m := by exact_mod_cast hle
    linarith [h.lower]
  · intro hle
    by_contra hlt
    have hlt' : (m : ℚ) + 1 ≤ k := by exact_mod_cast Nat.lt_of_not_le hlt
    have hm := h.upper_even (by linarith [h.upper])
    have hnext : (k : ℚ) = m + 1 := by linarith [h.upper]
    have hnext' : k = m + 1 := by exact_mod_cast hnext
    omega

end IsNearest

/-! ## Values -/

namespace Binary64

/-- The exact value of a number. -/
def value (x : Binary64) : ℚ := x.mantissa * 2 ^ x.exponent

theorem value_nonneg (x : Binary64) : 0 ≤ x.value := by
  unfold value
  positivity

@[simp] theorem value_zero : zero.value = 0 := by simp [value, zero]

theorem den_pos (x : Binary64) : 0 < x.den := by
  rw [den, Nat.shiftLeft_eq]
  positivity

/-- The power of two between a fraction and the fraction in other units. -/
theorem shiftLeft_div_shiftLeft (n d : Nat) (e : ℤ) :
    ((n <<< e.toNat : ℕ) : ℚ) / (d <<< (-e).toNat : ℕ) = n / d * 2 ^ e := by
  rw [Nat.shiftLeft_eq, Nat.shiftLeft_eq]
  push_cast
  rcases Int.le_total 0 e with he | he
  · obtain ⟨k, rfl⟩ := Int.eq_ofNat_of_zero_le he
    have hneg : (-(k : ℤ)).toNat = 0 := by omega
    rw [hneg, Int.toNat_natCast, zpow_natCast]
    ring
  · obtain ⟨k, hk⟩ := Int.eq_ofNat_of_zero_le (Int.neg_nonneg_of_nonpos he)
    have htoNat : e.toNat = 0 := by omega
    obtain rfl : e = -(k : ℤ) := by omega
    rw [htoNat, hk, Int.toNat_natCast, zpow_neg, zpow_natCast, pow_zero, mul_one,
      div_mul_eq_div_div, div_eq_mul_inv]

theorem num_div_den (x : Binary64) : (x.num : ℚ) / x.den = x.value := by
  rw [num, den, shiftLeft_div_shiftLeft]
  simp [value]

theorem num_eq (x : Binary64) : (x.num : ℚ) = x.value * x.den := by
  have hden : (x.den : ℚ) ≠ 0 := by exact_mod_cast x.den_pos.ne'
  rw [← num_div_den, div_mul_cancel₀ _ hden]

end Binary64

/-! ## Numbers of 53 bits -/

/-- The number is nearest to the rational among those of 53 bits, and of two it is the one
with an even mantissa. -/
inductive Rounds (q : ℚ) (x : Binary64) : Prop where
  /-- Nothing but zero is rounded to zero. -/
  | zero : q = 0 → x.value = 0 → Rounds q x
  /-- In units in which it has 53 bits before the point, a rational is rounded to a whole
  number. -/
  | scaled {r : ℚ} {e : ℤ} {m : ℕ} : q = r * 2 ^ e → 2 ^ 52 ≤ r → r < 2 ^ 53 →
      IsNearest r m → x.value = m * 2 ^ e → Rounds q x

section Scales

variable {r s : ℚ} {e f : ℤ}

theorem unit_pos (e : ℤ) : (0 : ℚ) < 2 ^ e := zpow_pos two_pos e

/-- A larger unit is at least twice as large. -/
theorem two_mul_zpow_le (h : e < f) : 2 * (2 : ℚ) ^ e ≤ 2 ^ f := by
  have hnext : (2 : ℚ) ^ (e + 1) ≤ 2 ^ f := zpow_le_zpow_right₀ one_le_two h
  rwa [zpow_add_one₀ two_ne_zero, mul_comm] at hnext

/-- What has 53 bits before the point in some unit has no more in the units of what is at
least as large. -/
theorem exponent_le (h : r * 2 ^ e ≤ s * 2 ^ f) (hr : 2 ^ 52 ≤ r) (hs : s < 2 ^ 53) : e ≤ f := by
  by_contra hlt
  have hunits := two_mul_zpow_le (not_le.1 hlt)
  have hf := unit_pos f
  have he := unit_pos e
  nlinarith

end Scales

namespace Rounds

variable {q q' : ℚ} {x y : Binary64}

/-- Rounding is monotone. -/
theorem mono (h : Rounds q x) (h' : Rounds q' y) (hle : q ≤ q') : x.value ≤ y.value := by
  cases h with
  | zero hq hx =>
      rw [hx]
      exact y.value_nonneg
  | scaled hq hr hr' hm hx =>
      rename_i r e m
      have he := unit_pos e
      cases h' with
      | zero hq' hy =>
          have hpos : 0 < r * 2 ^ e := by positivity
          linarith
      | scaled hq' hs hs' hn hy =>
          rename_i s f n
          rw [hq, hq'] at hle
          have hf := unit_pos f
          rw [hx, hy]
          rcases (exponent_le hle hr hs').lt_or_eq with hlt | rfl
          · have hunits := two_mul_zpow_le hlt
            have hmost := hm.le_most hr'
            have hleast := hn.ge_least hs
            nlinarith
          · have hrs : r ≤ s := le_of_mul_le_mul_right hle he
            have hmn : (m : ℚ) ≤ n := by exact_mod_cast hm.mono hn hrs
            exact mul_le_mul_of_nonneg_right hmn he.le

theorem unique (h : Rounds q x) (h' : Rounds q y) : x.value = y.value :=
  le_antisymm (h.mono h' le_rfl) (h'.mono h le_rfl)

/-- A rational with at most 53 bits is kept. -/
theorem value_eq {k : ℕ} {f : ℤ} (h : Rounds q x) (hq : q = k * 2 ^ f) (hk : k ≤ 2 ^ 53) :
    x.value = q := by
  cases h with
  | zero hzero hx => rw [hzero, hx]
  | scaled hscaled hr hr' hm hx =>
      rename_i r e m
      have he := unit_pos e
      have hf := unit_pos f
      have hk' : (k : ℚ) ≤ 2 ^ 53 := by exact_mod_cast hk
      have heq : r * 2 ^ e = k * 2 ^ f := hscaled.symm.trans hq
      rw [hx, hscaled]
      rcases le_or_gt e f with hle | hlt
      · obtain ⟨j, rfl⟩ := Int.le.dest hle
        have hwhole : r = (k * 2 ^ j : ℕ) := by
          rw [zpow_add₀ two_ne_zero, zpow_natCast] at heq
          push_cast
          nlinarith
        rw [hwhole] at hm ⊢
        rw [hm.eq_of_natCast]
      · have hunits := two_mul_zpow_le hlt
        have hwhole : r = (2 ^ 52 : ℕ) := by
          push_cast
          nlinarith
        rw [hwhole] at hm ⊢
        rw [hm.eq_of_natCast]

/-- Rounding changes a rational by at most its `2 ^ 53`th part. -/
theorem error (h : Rounds q x) : |x.value - q| ≤ q / 2 ^ 53 := by
  cases h with
  | zero hq hx => simp [hq, hx]
  | scaled hq hr hr' hm hx =>
      rename_i r e m
      have he := unit_pos e
      have hlower := hm.lower
      have hupper := hm.upper
      rw [hx, hq, abs_le]
      constructor
      · nlinarith
      · nlinarith

/-- What is rounded down to zero or has 53 bits is a number of 53 bits. -/
theorem normal (h : Rounds q x) : x.value = 0 ∨
    ∃ (k : ℕ) (f : ℤ), (2 : ℚ) ^ 52 ≤ k ∧ (k : ℚ) + 1 ≤ 2 ^ 53 ∧ x.value = k * 2 ^ f := by
  cases h with
  | zero hq hx => exact Or.inl hx
  | scaled hq hr hr' hm hx =>
      rename_i r e m
      right
      have hleast := hm.ge_least hr
      have hmost := hm.le_most hr'
      rcases hmost.lt_or_eq with hlt | heq
      · have hlt' : m < 2 ^ 53 := by exact_mod_cast hlt
        exact ⟨m, e, hleast, by exact_mod_cast hlt', hx⟩
      · refine ⟨2 ^ 52, e + 1, by norm_num, by norm_num, ?_⟩
        rw [hx, heq, zpow_add_one₀ two_ne_zero]
        norm_num
        ring

/-- Two numbers of 53 bits differ by at least the `2 ^ 53`th part of the larger one. -/
theorem gap (h : Rounds q x) (h' : Rounds q' y) (hlt : x.value < y.value) :
    x.value ≤ y.value - y.value / 2 ^ 53 := by
  have hy := y.value_nonneg
  rcases h.normal with hx | ⟨k, f, hk, hk', hx⟩
  · rw [hx]
    linarith
  rcases h'.normal with hy' | ⟨l, g, hl, hl', hy'⟩
  · have hx' := x.value_nonneg
    linarith
  rw [hx, hy'] at hlt ⊢
  have hf := unit_pos f
  have hg := unit_pos g
  rcases (exponent_le hlt.le hk (by linarith)).lt_or_eq with hfg | rfl
  · have hunits := two_mul_zpow_le hfg
    nlinarith
  · have hkl : (k : ℚ) + 1 ≤ l := by
      have hlt' : (k : ℚ) < l := lt_of_mul_lt_mul_right hlt hf.le
      have hlt'' : k < l := by exact_mod_cast hlt'
      exact_mod_cast hlt''
    nlinarith

/-- A number stays at or below one with an even mantissa up to half a unit above it. -/
theorem value_le_iff {k : ℕ} {f : ℤ} (h : Rounds q x) (hk : (2 : ℚ) ^ 52 ≤ k)
    (hk' : (k : ℚ) + 1 ≤ 2 ^ 53) (heven : k % 2 = 0) :
    x.value ≤ k * 2 ^ f ↔ q ≤ (k + 1 / 2) * 2 ^ f := by
  have hf := unit_pos f
  cases h with
  | zero hq hx =>
      have hpos : 0 < (k : ℚ) * 2 ^ f := by positivity
      rw [hq, hx]
      exact iff_of_true hpos.le (by nlinarith)
  | scaled hq hr hr' hm hx =>
      rename_i r e m
      have he := unit_pos e
      rw [hx, hq]
      rcases lt_trichotomy e f with hlt | rfl | hlt
      · have hunits := two_mul_zpow_le hlt
        have hmost := hm.le_most hr'
        exact iff_of_true (by nlinarith) (by nlinarith)
      · rw [mul_le_mul_iff_left₀ he, mul_le_mul_iff_left₀ he, Nat.cast_le]
        exact hm.le_iff heven
      · have hunits := two_mul_zpow_le hlt
        have hleast := hm.ge_least hr
        exact iff_of_false (by nlinarith) (by nlinarith)

/-- A number stays at or above one with an even mantissa from half a unit below it. -/
theorem le_value_iff {k : ℕ} {f : ℤ} (h : Rounds q x) (hk : (2 : ℚ) ^ 52 + 1 ≤ k)
    (hk' : (k : ℚ) + 1 ≤ 2 ^ 53) (heven : k % 2 = 0) :
    k * 2 ^ f ≤ x.value ↔ (k - 1 / 2) * 2 ^ f ≤ q := by
  have hf := unit_pos f
  cases h with
  | zero hq hx =>
      have hpos : 0 < (k : ℚ) * 2 ^ f := by positivity
      rw [hq, hx]
      exact iff_of_false (by linarith) (by nlinarith)
  | scaled hq hr hr' hm hx =>
      rename_i r e m
      have he := unit_pos e
      rw [hx, hq]
      rcases lt_trichotomy e f with hlt | rfl | hlt
      · have hunits := two_mul_zpow_le hlt
        have hmost := hm.le_most hr'
        exact iff_of_false (by nlinarith) (by nlinarith)
      · rw [mul_le_mul_iff_left₀ he, mul_le_mul_iff_left₀ he, Nat.cast_le]
        exact hm.ge_iff heven
      · have hunits := two_mul_zpow_le hlt
        have hleast := hm.ge_least hr
        exact iff_of_true (by nlinarith) (by nlinarith)

end Rounds

/-! ## Operations -/

namespace Binary64

/-- A positive number is the power of two of its logarithm times something between one and
two. -/
theorem exists_scaled {n : Nat} (hn : 0 < n) :
    ∃ a : ℚ, 1 ≤ a ∧ a < 2 ∧ (n : ℚ) = a * 2 ^ n.log2 := by
  have hpow : (0 : ℚ) < 2 ^ n.log2 := by positivity
  have hlower : (2 : ℚ) ^ n.log2 ≤ n := by exact_mod_cast Nat.log2_self_le hn.ne'
  have hupper : (n : ℚ) < 2 ^ (n.log2 + 1) := by exact_mod_cast Nat.lt_log2_self
  refine ⟨n / 2 ^ n.log2, ?_, ?_, ?_⟩
  · rwa [one_le_div hpow]
  · rwa [div_lt_iff₀ hpow, mul_comm, ← pow_succ]
  · rw [div_mul_cancel₀ _ hpow.ne']

/-- At the difference of the logarithms a fraction has 52 or 53 bits before the point. -/
theorem logarithms_spec {n d : Nat} (hn : 0 < n) (hd : 0 < d) :
    2 ^ 51 ≤ (n : ℚ) / d * 2 ^ (-((n.log2 : ℤ) - d.log2 - 52)) ∧
      (n : ℚ) / d * 2 ^ (-((n.log2 : ℤ) - d.log2 - 52)) < 2 ^ 53 := by
  obtain ⟨a, ha, ha', hn'⟩ := exists_scaled hn
  obtain ⟨b, hb, hb', hd'⟩ := exists_scaled hd
  have hscale : (n : ℚ) / d * 2 ^ (-((n.log2 : ℤ) - d.log2 - 52)) = a / b * 2 ^ 52 := by
    have hpow : (2 : ℚ) ^ n.log2 ≠ 0 := by positivity
    have hpow' : (2 : ℚ) ^ d.log2 ≠ 0 := by positivity
    have hexponent : -((n.log2 : ℤ) - d.log2 - 52) = 52 + d.log2 - n.log2 := by ring
    rw [hexponent, zpow_sub₀ two_ne_zero, zpow_add₀ two_ne_zero, zpow_natCast, zpow_natCast]
    nth_rewrite 1 [hn', hd']
    field_simp
  rw [hscale]
  constructor
  · have hhalf : 1 / 2 ≤ a / b := by
      rw [le_div_iff₀ (by linarith)]
      linarith
    linarith
  · have htwo : a / b < 2 := by
      rw [div_lt_iff₀ (by linarith)]
      linarith
    linarith

theorem inUnits_ratio (n d : Nat) (e : ℤ) :
    ((inUnits n d e).1 : ℚ) / (inUnits n d e).2 = n / d * 2 ^ (-e) := by
  have hshift := shiftLeft_div_shiftLeft n d (-e)
  rwa [neg_neg] at hshift

theorem inUnits_pos (n : Nat) {d : Nat} (hd : 0 < d) (e : ℤ) : 0 < (inUnits n d e).2 := by
  have hshift : (inUnits n d e).2 = d * 2 ^ e.toNat := Nat.shiftLeft_eq _ _
  rw [hshift]
  exact Nat.mul_pos hd (Nat.two_pow_pos _)

/-- At the exponent that is chosen a fraction has 53 bits before the point. -/
theorem exponentOf_spec {n d : Nat} (hn : 0 < n) (hd : 0 < d) :
    2 ^ 52 ≤ (n : ℚ) / d * 2 ^ (-exponentOf n d) ∧
      (n : ℚ) / d * 2 ^ (-exponentOf n d) < 2 ^ 53 := by
  obtain ⟨hlower, hupper⟩ := logarithms_spec hn hd
  unfold exponentOf
  dsimp only
  generalize (n.log2 : ℤ) - d.log2 - 52 = e at hlower hupper ⊢
  have hpos : (0 : ℚ) < (inUnits n d e).2 := by exact_mod_cast inUnits_pos n hd e
  have hleast : (inUnits n d e).1 / (inUnits n d e).2 < leastMantissa ↔
      (n : ℚ) / d * 2 ^ (-e) < 2 ^ 52 := by
    rw [← inUnits_ratio, div_lt_iff₀ hpos, Nat.div_lt_iff_lt_mul (inUnits_pos n hd e),
      ← Nat.cast_lt (α := ℚ), Nat.cast_mul]
    norm_num [leastMantissa]
  split
  · rename_i hless
    have hless' := hleast.1 hless
    rw [neg_sub, sub_eq_add_neg, add_comm, zpow_add_one₀ two_ne_zero, ← mul_assoc]
    constructor
    · linarith
    · linarith
  · rename_i hless
    exact ⟨not_lt.1 fun h => hless (hleast.2 h), hupper⟩

/-- Dividing rounds the exact quotient. -/
theorem rounds_ofRatio (n : Nat) {d : Nat} (hd : 0 < d) : Rounds (n / d) (ofRatio n d) := by
  rcases Nat.eq_zero_or_pos n with rfl | hn
  · exact .zero (by simp) (by simp [ofRatio])
  obtain ⟨hleast, hmost⟩ := exponentOf_spec hn hd
  have hnearest := isNearest_halfEven (inUnits n d (exponentOf n d)).1 _
    (inUnits_pos n hd (exponentOf n d))
  rw [inUnits_ratio] at hnearest
  refine .scaled (e := exponentOf n d) ?_ hleast hmost hnearest ?_
  · rw [mul_assoc, ← zpow_add₀ two_ne_zero, neg_add_cancel, zpow_zero, mul_one]
  · rw [ofRatio, if_neg hn.ne']
    dsimp only
    split
    · rename_i heq
      rw [heq, value, zpow_add_one₀ two_ne_zero]
      push_cast
      ring
    · rfl

/-- Every rational that is not negative is rounded to a number. -/
theorem exists_rounds {q : ℚ} (hq : 0 ≤ q) : ∃ x, Rounds q x := by
  refine ⟨ofRatio q.num.toNat q.den, ?_⟩
  have h := rounds_ofRatio q.num.toNat q.den_pos
  have hnum : ((q.num.toNat : ℕ) : ℚ) = q.num := by
    exact_mod_cast congrArg (Int.cast (R := ℚ)) (Int.toNat_of_nonneg (Rat.num_nonneg.2 hq))
  rwa [hnum, Rat.num_div_den] at h

theorem rounds_ofNat (n : Nat) : Rounds n (ofNat n) := by
  have h := rounds_ofRatio n Nat.one_pos
  rwa [Nat.cast_one, div_one] at h

/-- A product rounds the exact product. -/
theorem rounds_mul (x y : Binary64) : Rounds (x.value * y.value) (x.mul y) := by
  have h := rounds_ofRatio (x.num * y.num) (Nat.mul_pos x.den_pos y.den_pos)
  rwa [Nat.cast_mul, Nat.cast_mul, mul_div_mul_comm, num_div_den, num_div_den] at h

/-- A quotient rounds the exact quotient. -/
theorem rounds_div {x y : Binary64} (hy : 0 < y.value) :
    Rounds (x.value / y.value) (x.div y) := by
  have hnum : 0 < y.num := by
    have hpos : (0 : ℚ) < y.num := by
      rw [num_eq]
      exact mul_pos hy (by exact_mod_cast y.den_pos)
    exact_mod_cast hpos
  have h := rounds_ofRatio (x.num * y.den) (Nat.mul_pos x.den_pos hnum)
  rwa [Nat.cast_mul, Nat.cast_mul, mul_div_mul_comm, num_div_den, ← inv_div, num_div_den,
    ← div_eq_mul_inv] at h

end Binary64

/-! ## Bounds -/

namespace Rounds

variable {q : ℚ} {x : Binary64} {k : ℕ} {f : ℤ}

/-- What is at most a rational with at most 53 bits is not rounded beyond it. -/
theorem value_le (h : Rounds q x) (hle : q ≤ k * 2 ^ f) (hk : k ≤ 2 ^ 53) :
    x.value ≤ k * 2 ^ f := by
  have hf := unit_pos f
  obtain ⟨y, hy⟩ := Binary64.exists_rounds (q := k * 2 ^ f) (by positivity)
  have hxy := h.mono hy hle
  rwa [hy.value_eq rfl hk] at hxy

/-- What is at least a rational with at most 53 bits is not rounded below it. -/
theorem le_value (h : Rounds q x) (hle : k * 2 ^ f ≤ q) (hk : k ≤ 2 ^ 53) :
    k * 2 ^ f ≤ x.value := by
  have hf := unit_pos f
  obtain ⟨y, hy⟩ := Binary64.exists_rounds (q := k * 2 ^ f) (by positivity)
  have hxy := hy.mono h hle
  rwa [hy.value_eq rfl hk] at hxy

end Rounds

end TestCensus.Number
