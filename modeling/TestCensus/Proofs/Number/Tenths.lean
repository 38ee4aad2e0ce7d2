import TestCensus.Proofs.Number.Binary64

/-!
# Rounding to tenths

A number is written in tenths in two ways.  One rounds the exact tenfold to the nearest whole
number, and to the even one of two (`Binary64.tenths`).  The other rounds twice: the tenfold
to 53 bits, and the result to the nearest whole number, a half upwards
(`Binary64.roundedTenths`).

The two differ in one case only.  The tenfold in 53 bits cannot leave the interval of half a
unit around the exactly rounded tenths, because the ends of that interval have 53 bits
themselves.  It may reach the upper end (`Binary64.IsHalfway`), and there a half is rounded
upwards (`Binary64.roundedTenths_eq_tenths_iff`).
-/

namespace TestCensus.Number

/-- The nearest number with a half upwards is the one whose interval holds the quotient.  The
interval ends before its upper end. -/
theorem halfUp_eq_iff (n m : Nat) {d : Nat} (hd : 0 < d) :
    halfUp n d = m ↔ (m : ℚ) - 1 / 2 ≤ n / d ∧ (n : ℚ) / d < m + 1 / 2 := by
  have hd' : (0 : ℚ) < d := by exact_mod_cast hd
  have hlast : 2 * n + d ≤ m * (2 * d) + 2 * d - 1 ↔ 2 * n + d < m * (2 * d) + 2 * d := by omega
  rw [halfUp, Nat.div_eq_iff (by omega), hlast, le_div_iff₀ hd', div_lt_iff₀ hd',
    ← Nat.cast_le (α := ℚ), ← Nat.cast_lt (α := ℚ)]
  push_cast
  constructor
  · rintro ⟨hlower, hupper⟩
    exact ⟨by linarith, by linarith⟩
  · rintro ⟨hlower, hupper⟩
    exact ⟨by linarith, by linarith⟩

namespace Binary64

variable {x y : Binary64}

/-- The tenfold of a number. -/
def tenfold (x : Binary64) : Binary64 := x.mul (ofNat 10)

/-- The tenfold lies half a unit above the tenths to which the number is rounded. -/
def IsHalfway (x : Binary64) : Prop := x.tenfold.value = x.tenths + 1 / 2

theorem rounds_tenfold (x : Binary64) : Rounds (x.value * 10) x.tenfold := by
  have hten : (ofNat 10).value = 10 :=
    (rounds_ofNat 10).value_eq (k := 10) (f := 0) (by norm_num) (by norm_num)
  have h := rounds_mul x (ofNat 10)
  rwa [hten] at h

/-- Tenths are the whole number nearest to the exact tenfold. -/
theorem isNearest_tenths (x : Binary64) : IsNearest (x.value * 10) x.tenths := by
  have h := isNearest_halfEven (10 * x.num) x.den x.den_pos
  rwa [Nat.cast_mul, mul_comm, mul_div_right_comm, num_div_den] at h

theorem roundedTenths_eq_iff (x : Binary64) (m : Nat) : x.roundedTenths = m ↔
    (m : ℚ) - 1 / 2 ≤ x.tenfold.value ∧ x.tenfold.value < m + 1 / 2 := by
  rw [← num_div_den]
  exact halfUp_eq_iff x.tenfold.num m x.tenfold.den_pos

/-- Rounding the tenfold to 53 bits does not leave the interval around the tenths. -/
theorem tenfold_near (x : Binary64) (h : x.tenths < 2 ^ 52) :
    (x.tenths : ℚ) - 1 / 2 ≤ x.tenfold.value ∧ x.tenfold.value ≤ x.tenths + 1 / 2 := by
  have hnearest := x.isNearest_tenths
  have hrounds := x.rounds_tenfold
  have hunit : (2 : ℚ) ^ (-1 : ℤ) = 1 / 2 := by norm_num
  constructor
  · rcases Nat.eq_zero_or_pos x.tenths with hzero | hpos
    · have hnonneg := x.tenfold.value_nonneg
      rw [hzero]
      norm_num
      linarith
    · have hend : ((2 * x.tenths - 1 : ℕ) : ℚ) * 2 ^ (-1 : ℤ) = x.tenths - 1 / 2 := by
        rw [Nat.cast_sub (by omega), hunit]
        push_cast
        ring
      rw [← hend]
      exact hrounds.le_value (by rw [hend]; exact hnearest.lower) (by omega)
  · have hend : ((2 * x.tenths + 1 : ℕ) : ℚ) * 2 ^ (-1 : ℤ) = x.tenths + 1 / 2 := by
      rw [hunit]
      push_cast
      ring
    rw [← hend]
    exact hrounds.value_le (by rw [hend]; exact hnearest.upper) (by omega)

/-- Rounding twice gives a tenth more if the number is halfway, and the same otherwise. -/
theorem roundedTenths_of_isHalfway (h : x.IsHalfway) : x.roundedTenths = x.tenths + 1 := by
  rw [roundedTenths_eq_iff, h]
  push_cast
  exact ⟨by linarith, by linarith⟩

theorem roundedTenths_of_not_isHalfway (hsmall : x.tenths < 2 ^ 52) (h : ¬x.IsHalfway) :
    x.roundedTenths = x.tenths := by
  obtain ⟨hlower, hupper⟩ := x.tenfold_near hsmall
  exact (roundedTenths_eq_iff x _).2 ⟨hlower, lt_of_le_of_ne hupper h⟩

theorem roundedTenths_eq_tenths_iff (hsmall : x.tenths < 2 ^ 52) :
    x.roundedTenths = x.tenths ↔ ¬x.IsHalfway := by
  refine ⟨fun heq h => ?_, roundedTenths_of_not_isHalfway hsmall⟩
  rw [roundedTenths_of_isHalfway h] at heq
  omega

/-! ## Equal values -/

theorem tenths_congr (h : x.value = y.value) : x.tenths = y.tenths := by
  have hx := x.isNearest_tenths
  rw [h] at hx
  exact hx.unique y.isNearest_tenths

/-- Whether a number is halfway depends on its value only. -/
theorem isHalfway_congr (h : x.value = y.value) : x.IsHalfway ↔ y.IsHalfway := by
  have hx := x.rounds_tenfold
  rw [h] at hx
  rw [IsHalfway, IsHalfway, tenths_congr h, hx.unique y.rounds_tenfold]

end Binary64

end TestCensus.Number
