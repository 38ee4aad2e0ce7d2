import TestCensus.Proofs.Number.Binary64
import TestCensus.Proofs.Report.Json

/-!
# The range of percentages

A percentage is computed in three steps of 53 bits: both counts are converted, the part is
multiplied by a hundred, and the product is divided by the whole.  Each step rounds, and the
roundings of the product and of the quotient may add up.

*The product.*  It is off by at most its `2 ^ 53`th part, which is more than half of the
distance between a hundred and its neighbours once it is divided by the whole.  A count
`Overshoots` or `Undershoots` if the rounding of its hundredfold goes so far.

*The quotient.*  A part whose conversion is smaller than that of the whole stays far enough
below it for the product not to matter (`Rounds.gap`).  So a percentage passes a hundred
exactly if both conversions are equal and the whole overshoots, and then it is the number
behind a hundred (`ShareBounds`).

*Small counts.*  The hundredfold of a count below `2 ^ 53 / 25` has 53 bits, and nothing is
rounded before the quotient.
-/

namespace TestCensus

namespace Number

open Binary64

variable {part whole : Nat}

/-- The product of a count with a hundred. -/
def hundredfold (n : Nat) : Binary64 := (ofNat n).mul (ofNat 100)

/-- The rounding of the hundredfold of a count adds more than the `2 ^ 47`th part of the
count. -/
def Overshoots (n : Nat) : Prop :=
  (ofNat n).value * (100 + 1 / 2 ^ 47) < (hundredfold n).value

/-- The rounding of the hundredfold of a count takes away more than the `2 ^ 47`th part of
the count. -/
def Undershoots (n : Nat) : Prop :=
  (hundredfold n).value < (ofNat n).value * (100 - 1 / 2 ^ 47)

theorem value_ofNat {n : Nat} (h : n ≤ 2 ^ 53) : (ofNat n).value = n :=
  (rounds_ofNat n).value_eq (f := 0) (by simp) h

theorem value_ofNat_pos {n : Nat} (h : 0 < n) : 0 < (ofNat n).value := by
  have hpos : (0 : ℚ) < n := by exact_mod_cast h
  have herror := (abs_le.1 (rounds_ofNat n).error).1
  linarith

theorem value_ofNat_mono (h : part ≤ whole) : (ofNat part).value ≤ (ofNat whole).value :=
  (rounds_ofNat part).mono (rounds_ofNat whole) (by exact_mod_cast h)

theorem rounds_hundredfold (n : Nat) : Rounds ((ofNat n).value * 100) (hundredfold n) := by
  have hhundred : (ofNat 100).value = 100 := value_ofNat (by norm_num)
  have h := rounds_mul (ofNat n) (ofNat 100)
  rwa [hhundred] at h

/-- Where the hundredfold of a count has 53 bits, nothing is rounded. -/
theorem value_hundredfold {n : Nat} (h : 25 * n < 2 ^ 53) : (hundredfold n).value = n * 100 := by
  have hn : (ofNat n).value = n := value_ofNat (by omega)
  have hrounds := rounds_hundredfold n
  rw [hn] at hrounds
  refine hrounds.value_eq (k := 25 * n) (f := 2) ?_ h.le
  push_cast
  ring

theorem rounds_percentage (part : Nat) (h : 0 < whole) :
    Rounds ((hundredfold part).value / (ofNat whole).value) (percentage part whole) := by
  rw [percentage, if_neg h.ne']
  exact rounds_div (value_ofNat_pos h)

/-- A percentage is at most a hundred if the product is at most the `2 ^ 47`th part of the
whole beyond its hundredfold. -/
theorem percentage_le_iff (h : 0 < whole) : (percentage part whole).value ≤ 100 ↔
    (hundredfold part).value ≤ (ofNat whole).value * (100 + 1 / 2 ^ 47) := by
  have hpos := value_ofNat_pos h
  have hhundred : ((100 * 2 ^ 46 : ℕ) : ℚ) * 2 ^ (-46 : ℤ) = 100 := by norm_num
  have hmiddle : (((100 * 2 ^ 46 : ℕ) : ℚ) + 1 / 2) * 2 ^ (-46 : ℤ) = 100 + 1 / 2 ^ 47 := by
    norm_num
  have hiff := (rounds_percentage part h).value_le_iff (k := 100 * 2 ^ 46) (f := -46)
    (by norm_num) (by norm_num) (by norm_num)
  rw [hhundred, hmiddle, div_le_iff₀ hpos] at hiff
  rw [hiff, mul_comm]

/-- A percentage is at least a hundred if the product is at most the `2 ^ 47`th part of the
whole below its hundredfold. -/
theorem le_percentage_iff (h : 0 < whole) : 100 ≤ (percentage part whole).value ↔
    (ofNat whole).value * (100 - 1 / 2 ^ 47) ≤ (hundredfold part).value := by
  have hpos := value_ofNat_pos h
  have hhundred : ((100 * 2 ^ 46 : ℕ) : ℚ) * 2 ^ (-46 : ℤ) = 100 := by norm_num
  have hmiddle : (((100 * 2 ^ 46 : ℕ) : ℚ) - 1 / 2) * 2 ^ (-46 : ℤ) = 100 - 1 / 2 ^ 47 := by
    norm_num
  have hiff := (rounds_percentage part h).le_value_iff (k := 100 * 2 ^ 46) (f := -46)
    (by norm_num) (by norm_num) (by norm_num)
  rw [hhundred, hmiddle, le_div_iff₀ hpos] at hiff
  rw [hiff, mul_comm]

/-- What percentages of a part in a whole can be. -/
structure ShareBounds (part whole : Nat) (share : Binary64) : Prop where
  /-- The share in nothing is zero. -/
  empty : whole = 0 → share.value = 0
  /-- A share is never negative. -/
  nonneg : 0 ≤ share.value
  /-- A share is at most the number behind a hundred. -/
  nearly : share.value ≤ 100 + 1 / 2 ^ 46
  /-- It passes a hundred exactly if the part and the whole are converted to the same number
  and the whole overshoots. -/
  within_iff : share.value ≤ 100 ↔
    ¬((ofNat part).value = (ofNat whole).value ∧ Overshoots whole)
  /-- The share of all is a hundred exactly if the whole neither overshoots nor
  undershoots. -/
  full_iff : part = whole → 0 < whole →
    (share.value = 100 ↔ ¬Overshoots whole ∧ ¬Undershoots whole)
  /-- As long as the hundredfold of the whole has 53 bits, shares end at a hundred, and the
  share of all is a hundred. -/
  exact : 25 * whole < 2 ^ 53 →
    share.value ≤ 100 ∧ (part = whole → 0 < whole → share.value = 100)

theorem not_overshoots_of_small {n : Nat} (h : 25 * n < 2 ^ 53) : ¬Overshoots n := by
  have hn : (0 : ℚ) ≤ n := n.cast_nonneg
  rw [Overshoots, value_hundredfold h, value_ofNat (by omega)]
  linarith

theorem not_undershoots_of_small {n : Nat} (h : 25 * n < 2 ^ 53) : ¬Undershoots n := by
  have hn : (0 : ℚ) ≤ n := n.cast_nonneg
  rw [Undershoots, value_hundredfold h, value_ofNat (by omega)]
  linarith

/-- The hundredfold of a count that is converted to a smaller number than the whole is at
most the exact hundredfold of that of the whole. -/
theorem hundredfold_le_of_lt (h : (ofNat part).value < (ofNat whole).value) :
    (hundredfold part).value ≤ (ofNat whole).value * 100 := by
  have hgap := (rounds_ofNat part).gap (rounds_ofNat whole) h
  have herror := (abs_le.1 (rounds_hundredfold part).error).2
  have hpart := (ofNat part).value_nonneg
  have hwhole := (ofNat whole).value_nonneg
  linarith

theorem percentage_le_hundred_iff (hle : part ≤ whole) (h : 0 < whole) :
    (percentage part whole).value ≤ 100 ↔
      ¬((ofNat part).value = (ofNat whole).value ∧ Overshoots whole) := by
  have hpos := value_ofNat_pos h
  rw [percentage_le_iff h]
  rcases (value_ofNat_mono hle).lt_or_eq with hlt | heq
  · have hsmall := hundredfold_le_of_lt hlt
    exact iff_of_true (by linarith) fun hboth => hlt.ne hboth.1
  · have hsame : (hundredfold part).value = (hundredfold whole).value := by
      have hpart := rounds_hundredfold part
      rw [heq] at hpart
      exact hpart.unique (rounds_hundredfold whole)
    rw [hsame, Overshoots, not_and, not_lt]
    exact ⟨fun hsmall _ => hsmall, fun hsmall => hsmall heq⟩

theorem percentage_nearly (hle : part ≤ whole) (h : 0 < whole) :
    (percentage part whole).value ≤ 100 + 1 / 2 ^ 46 := by
  have hpos := value_ofNat_pos h
  have hneighbour : ((100 * 2 ^ 46 + 1 : ℕ) : ℚ) * 2 ^ (-46 : ℤ) = 100 + 1 / 2 ^ 46 := by norm_num
  have hmono := value_ofNat_mono hle
  have herror := (abs_le.1 (rounds_hundredfold part).error).2
  have hquotient : (hundredfold part).value / (ofNat whole).value ≤ 100 + 1 / 2 ^ 46 := by
    rw [div_le_iff₀ hpos]
    linarith
  rw [← hneighbour] at hquotient ⊢
  exact (rounds_percentage part h).value_le hquotient (by norm_num)

theorem percentage_full_iff (h : 0 < whole) : (percentage whole whole).value = 100 ↔
    ¬Overshoots whole ∧ ¬Undershoots whole := by
  rw [Overshoots, Undershoots, not_lt, not_lt, ← percentage_le_iff h, ← le_percentage_iff h]
  exact ⟨fun heq => ⟨heq.le, heq.ge⟩, fun hboth => le_antisymm hboth.1 hboth.2⟩

/-- Percentages of a part in a whole. -/
theorem shareBounds (hle : part ≤ whole) : ShareBounds part whole (percentage part whole) := by
  rcases Nat.eq_zero_or_pos whole with rfl | hpos
  · obtain rfl := Nat.le_zero.1 hle
    have hzero : (percentage 0 0).value = 0 := value_zero
    have hover : ¬Overshoots 0 := not_overshoots_of_small (by norm_num)
    constructor
    case empty => exact fun _ => hzero
    case nonneg => exact (percentage 0 0).value_nonneg
    case nearly => rw [hzero]; norm_num
    case within_iff => exact iff_of_true (by rw [hzero]; norm_num) fun hboth => hover hboth.2
    case full_iff => exact fun _ h => absurd h (Nat.lt_irrefl 0)
    case exact => exact fun _ => ⟨by rw [hzero]; norm_num, fun _ h => absurd h (Nat.lt_irrefl 0)⟩
  · constructor
    case empty => exact fun h => absurd h hpos.ne'
    case nonneg => exact (percentage part whole).value_nonneg
    case nearly => exact percentage_nearly hle hpos
    case within_iff => exact percentage_le_hundred_iff hle hpos
    case full_iff =>
      rintro rfl _
      exact percentage_full_iff hpos
    case exact =>
      intro hsmall
      have hover := not_overshoots_of_small hsmall
      refine ⟨(percentage_le_hundred_iff hle hpos).2 fun hboth => hover hboth.2, ?_⟩
      rintro rfl _
      exact (percentage_full_iff hpos).2 ⟨hover, not_undershoots_of_small hsmall⟩

end Number

namespace Tally

open Number

/-- Every percentage of a part is within a hundred up to one unit in the last place, and
passes a hundred exactly if rounding the hundredfold of the whole goes too far.  The share
of the categorized instances of a suite is such a percentage. -/
theorem percentage_bounded (t : Tally) {part whole : Nat} (h : part ≤ whole) :
    ShareBounds part whole (Number.percentage part whole) ∧
      ShareBounds t.categorized.val t.total.val t.percentage :=
  ⟨shareBounds h, shareBounds t.categorized_le_total⟩

/-- A suite of one function, which has a marker and very many instances. -/
def overshooting : Tally :=
  { files := [⟨"test_a.py",
      [⟨"test_a", none, "test_a.py", 1, MarkerSet.ofList ["unit"], false, none,
          Count.ofNat 360287970189643⟩]⟩]
    collected := none
    recorded := [] }

/-- The bounds for this suite, and for two instances fewer, which undershoot. -/
theorem percentage_bounded_overshooting :
    360287970189641 ≤ 360287970189641 ∧
      ShareBounds 360287970189641 360287970189641
        (Number.percentage 360287970189641 360287970189641) ∧
      ShareBounds overshooting.categorized.val overshooting.total.val overshooting.percentage :=
  ⟨Nat.le_refl _, percentage_bounded overshooting (Nat.le_refl 360287970189641)⟩

/-- All instances of this suite are categorized, and they are more than a hundred percent.
With two instances fewer they are less. -/
theorem overshooting_percentage :
    overshooting.categorized = overshooting.total ∧ 100 < overshooting.percentage.value ∧
      (Number.percentage 360287970189641 360287970189641).value < 100 := by
  have hcategorized : overshooting.categorized.val = 360287970189643 := by decide +kernel
  have htotal : overshooting.total.val = 360287970189643 := by decide +kernel
  have hover : Number.percentage 360287970189643 360287970189643 = ⟨7036874417766401, -46⟩ := by
    decide +kernel
  have hunder : Number.percentage 360287970189641 360287970189641 = ⟨7036874417766399, -46⟩ := by
    decide +kernel
  refine ⟨Count.ext (hcategorized.trans htotal.symm), ?_, ?_⟩
  · rw [percentage, hcategorized, htotal, hover, Binary64.value]
    norm_num
  · rw [hunder, Binary64.value]
    norm_num

end Tally

end TestCensus
