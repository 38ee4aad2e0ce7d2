/-!
# Rounding of quotients

The quotient of two natural numbers is rounded to a natural number in two ways
that differ where it lies halfway between two of them: `halfEven` then takes the
even one, and `halfUp` the larger one.  `halfEven_near` says that the rounded
number is at most half a unit away.
-/

namespace TestCensus.Number

/-- The quotient rounded to the nearest number, and to the even one of two. -/
def halfEven (n d : Nat) : Nat :=
  let q := n / d
  let r := n % d
  if 2 * r < d then q
  else if d < 2 * r then q + 1
  else if q % 2 = 0 then q else q + 1

/-- The quotient rounded to the nearest number, and to the larger one of two. -/
def halfUp (n d : Nat) : Nat := (2 * n + d) / (2 * d)

theorem halfEven_near (n d : Nat) (hd : 0 < d) :
    2 * (halfEven n d * d) ≤ 2 * n + d ∧ 2 * n ≤ 2 * (halfEven n d * d) + d := by
  have hdiv : d * (n / d) + n % d = n := Nat.div_add_mod n d
  have hmod : n % d < d := Nat.mod_lt n hd
  have hup : (n / d + 1) * d = d * (n / d) + d := by
    rw [Nat.add_mul, Nat.one_mul, Nat.mul_comm]
  have hdown : n / d * d = d * (n / d) := Nat.mul_comm _ _
  unfold halfEven
  simp only
  split
  · rw [hdown]
    omega
  · split
    · rw [hup]
      omega
    · split
      · rw [hdown]
        omega
      · rw [hup]
        omega

end TestCensus.Number
