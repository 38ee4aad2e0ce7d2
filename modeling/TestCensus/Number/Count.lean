/-!
# Saturating counts

Test instances are counted in 64 bits, and a count that would pass the limit
`2 ^ 64 - 1` stays there.  A `Count` is a number that fits, with the proof that
it does.  `Count.ofNat` is the one place where a number is cut to the limit, and
the operations say what they do to the number itself: the value of a sum is the
smaller of the limit and the exact sum (`add_val`, `sum_val`), and so for
products (`mul_val`).
-/

namespace TestCensus

/-- The largest count, `2 ^ 64 - 1`. -/
def Count.limit : Nat := 18446744073709551615

/-- A number of test instances that fits 64 bits. -/
structure Count where
  /-- The number. -/
  val : Nat
  /-- The number does not pass the limit. -/
  val_le : val ≤ Count.limit
deriving DecidableEq

namespace Count

/-- The count nearest to a number: the number itself, or the limit. -/
def ofNat (n : Nat) : Count := ⟨min n limit, Nat.min_le_right n limit⟩

instance : OfNat Count 0 := ⟨⟨0, Nat.zero_le _⟩⟩

instance : OfNat Count 1 := ⟨⟨1, by decide⟩⟩

instance : Inhabited Count := ⟨0⟩

instance : ToString Count := ⟨fun n => toString n.val⟩

/-- The sum, cut to the limit. -/
def add (a b : Count) : Count := ofNat (a.val + b.val)

instance : Add Count := ⟨add⟩

/-- The product, cut to the limit. -/
def mul (a b : Count) : Count := ofNat (a.val * b.val)

instance : Mul Count := ⟨mul⟩

/-- The difference, which is zero where the second count is the larger one. -/
def minus (a b : Count) : Count := ⟨a.val - b.val, Nat.le_trans (Nat.sub_le _ _) a.val_le⟩

/-- The running sum of a list of counts. -/
def sum (counts : List Count) : Count := counts.foldl add 0

/-- The exact sum of a list of counts. -/
def exactSum : List Count → Nat
  | [] => 0
  | c :: rest => c.val + exactSum rest

@[simp] theorem ofNat_val (n : Nat) : (ofNat n).val = min n limit := rfl

@[simp] theorem zero_val : (0 : Count).val = 0 := rfl

@[simp] theorem one_val : (1 : Count).val = 1 := rfl

@[simp] theorem add_val (a b : Count) : (a + b).val = min (a.val + b.val) limit := rfl

@[simp] theorem mul_val (a b : Count) : (a * b).val = min (a.val * b.val) limit := rfl

@[simp] theorem minus_val (a b : Count) : (a.minus b).val = a.val - b.val := rfl

theorem ext {a b : Count} (h : a.val = b.val) : a = b := by
  cases a
  cases b
  simp_all

/-- A running sum that starts at `a` ends at the smaller of the limit and the
exact sum. -/
theorem foldl_add_val (counts : List Count) (a : Count) :
    (counts.foldl add a).val = min (a.val + exactSum counts) limit := by
  induction counts generalizing a with
  | nil => simp [exactSum, Nat.min_eq_left a.val_le]
  | cons c rest ih =>
      rw [List.foldl_cons, ih]
      have hv : (a.add c).val = min (a.val + c.val) limit := rfl
      rw [hv]
      simp only [exactSum]
      omega

theorem sum_val (counts : List Count) :
    (sum counts).val = min (exactSum counts) limit := by
  rw [sum, foldl_add_val]
  simp

/-- Cutting numbers to the limit keeps products: where a factor is cut, so is the
product, unless it is zero. -/
theorem ofNat_mul (m n : Nat) : ofNat (m * n) = ofNat m * ofNat n := by
  apply ext
  rw [mul_val, ofNat_val, ofNat_val, ofNat_val]
  rcases Nat.eq_zero_or_pos m with rfl | hm
  · simp
  rcases Nat.eq_zero_or_pos n with rfl | hn
  · simp
  have hleft : m ≤ m * n := Nat.le_mul_of_pos_right m hn
  have hright : n ≤ m * n := Nat.le_mul_of_pos_left n hm
  rcases Nat.le_total m limit with hml | hml
  · rcases Nat.le_total n limit with hnl | hnl
    · rw [Nat.min_eq_left hml, Nat.min_eq_left hnl]
    · rw [Nat.min_eq_right hnl, Nat.min_eq_right (Nat.le_trans hnl hright),
        Nat.min_eq_right (Nat.le_mul_of_pos_left limit (by omega))]
  · have hone : 0 < min n limit := Nat.lt_min.2 ⟨hn, by decide⟩
    rw [Nat.min_eq_right hml, Nat.min_eq_right (Nat.le_trans hml hleft),
      Nat.min_eq_right (Nat.le_mul_of_pos_right limit hone)]

end Count

end TestCensus
