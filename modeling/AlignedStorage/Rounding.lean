/-!
# Rounding to multiples

Sizes are rounded over unbounded numbers.  `roundUp n a` is the least
multiple of `a` that is at least `n`, and `roundDown n a` the greatest that
is at most `n`.
-/

namespace AlignedStorage

/-- The least multiple of `a` that is at least `n`. -/
def roundUp (n a : Nat) : Nat :=
  (n + (a - 1)) / a * a

/-- The greatest multiple of `a` that is at most `n`. -/
def roundDown (n a : Nat) : Nat :=
  n / a * a

theorem dvd_roundUp (n a : Nat) : a ∣ roundUp n a :=
  Nat.dvd_mul_left a _

theorem dvd_roundDown (n a : Nat) : a ∣ roundDown n a :=
  Nat.dvd_mul_left a _

theorem roundDown_le (n a : Nat) : roundDown n a ≤ n :=
  Nat.div_mul_le_self n a

theorem le_roundUp {n a : Nat} (ha : 0 < a) : n ≤ roundUp n a := by
  have h := Nat.div_add_mod (n + (a - 1)) a
  have hlt := Nat.mod_lt (n + (a - 1)) ha
  unfold roundUp
  rw [Nat.mul_comm]
  omega

theorem roundUp_le {n m a : Nat} (ha : 0 < a) (h : n ≤ m) (hdvd : a ∣ m) :
    roundUp n a ≤ m := by
  obtain ⟨k, rfl⟩ := hdvd
  have hk : (n + (a - 1)) / a ≤ k := by
    have hlt : (n + (a - 1)) / a < k + 1 := by
      rw [Nat.div_lt_iff_lt_mul ha, Nat.add_mul, Nat.mul_comm k a]
      omega
    omega
  calc
    roundUp n a ≤ k * a := Nat.mul_le_mul_right a hk
    _ = a * k := Nat.mul_comm k a

theorem le_roundDown {n m a : Nat} (h : m ≤ n) (hdvd : a ∣ m) :
    m ≤ roundDown n a := by
  obtain ⟨k, rfl⟩ := hdvd
  rcases Nat.eq_zero_or_pos a with rfl | ha
  · simp
  · have hk : k ≤ n / a := by
      rw [Nat.le_div_iff_mul_le ha, Nat.mul_comm]
      exact h
    calc
      a * k = k * a := Nat.mul_comm a k
      _ ≤ roundDown n a := Nat.mul_le_mul_right a hk

theorem roundUp_lt {n a : Nat} (ha : 0 < a) : roundUp n a < n + a := by
  have h := Nat.div_mul_le_self (n + (a - 1)) a
  unfold roundUp
  omega

theorem lt_roundDown_add {n a : Nat} (ha : 0 < a) :
    n < roundDown n a + a := by
  have h := Nat.div_add_mod n a
  have hlt := Nat.mod_lt n ha
  unfold roundDown
  rw [Nat.mul_comm]
  omega

end AlignedStorage
