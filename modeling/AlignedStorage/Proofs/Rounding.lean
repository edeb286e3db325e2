import AlignedStorage.Layout

/-!
# Laws of rounding

Rounding up is monotone.  A size that already carries part of its padding
rounds to the same multiple as without it, and a stricter alignment never
rounds to less.  Both roundings are adjoint to the inclusion of the multiples,
so that of two nested alignments the outer one decides.  Any two powers of two
are nested, so all of them up to the address limit divide it: rounding cannot
carry a size across the limit.
-/

namespace AlignedStorage

theorem roundUp_mono {n m a : Nat} (ha : 0 < a) (h : n ≤ m) :
    roundUp n a ≤ roundUp m a :=
  roundUp_le ha (Nat.le_trans h (le_roundUp ha)) (dvd_roundUp m a)

/-- Padding that is there already does not change where a size is rounded
to. -/
theorem roundUp_eq_of_le_roundUp {n m a : Nat} (ha : 0 < a) (hnm : n ≤ m)
    (hm : m ≤ roundUp n a) : roundUp m a = roundUp n a :=
  Nat.le_antisymm (roundUp_le ha hm (dvd_roundUp n a)) (roundUp_mono ha hnm)

theorem roundUp_le_roundUp_of_dvd {n a b : Nat} (ha : 0 < a) (hb : 0 < b)
    (hab : a ∣ b) : roundUp n a ≤ roundUp n b :=
  roundUp_le ha (le_roundUp hb) (Nat.dvd_trans hab (dvd_roundUp n b))

/-! ## The nearest multiples -/

/-- `m` is the least multiple of `a` from `n` on. -/
structure IsLeastMultiple (a n m : Nat) : Prop where
  dvd : a ∣ m
  le : n ≤ m
  least : ∀ k, a ∣ k → n ≤ k → m ≤ k

/-- `m` is the greatest multiple of `a` up to `n`. -/
structure IsGreatestMultiple (a n m : Nat) : Prop where
  dvd : a ∣ m
  le : m ≤ n
  greatest : ∀ k, a ∣ k → k ≤ n → k ≤ m

theorem isLeastMultiple_iff {n m a : Nat} (ha : 0 < a) :
    IsLeastMultiple a n m ↔ m = roundUp n a := by
  constructor
  · intro h
    have hle := h.least (roundUp n a) (dvd_roundUp n a) (le_roundUp ha)
    have hge := roundUp_le ha h.le h.dvd
    exact Nat.le_antisymm hle hge
  · rintro rfl
    exact ⟨dvd_roundUp n a, le_roundUp ha,
      fun k hdvd hle ↦ roundUp_le ha hle hdvd⟩

theorem isGreatestMultiple_iff {n m a : Nat} :
    IsGreatestMultiple a n m ↔ m = roundDown n a := by
  constructor
  · intro h
    have hge := h.greatest (roundDown n a) (dvd_roundDown n a)
      (roundDown_le n a)
    have hle := le_roundDown h.le h.dvd
    exact Nat.le_antisymm hle hge
  · rintro rfl
    exact ⟨dvd_roundDown n a, roundDown_le n a,
      fun k hdvd hle ↦ le_roundDown hle hdvd⟩

theorem roundUp_le_iff {n m a : Nat} (ha : 0 < a) (hdvd : a ∣ m) :
    roundUp n a ≤ m ↔ n ≤ m :=
  ⟨Nat.le_trans (le_roundUp ha), fun h ↦ roundUp_le ha h hdvd⟩

theorem le_roundDown_iff {n m a : Nat} (hdvd : a ∣ m) :
    m ≤ roundDown n a ↔ m ≤ n :=
  ⟨fun h ↦ Nat.le_trans h (roundDown_le n a), fun h ↦ le_roundDown h hdvd⟩

theorem roundDown_mono {n m a : Nat} (h : n ≤ m) :
    roundDown n a ≤ roundDown m a :=
  le_roundDown (Nat.le_trans (roundDown_le n a) h) (dvd_roundDown n a)

theorem roundUp_eq_self_iff {n a : Nat} (ha : 0 < a) :
    roundUp n a = n ↔ a ∣ n := by
  constructor
  · intro h
    rw [← h]
    exact dvd_roundUp n a
  · intro hdvd
    exact Nat.le_antisymm (roundUp_le ha (Nat.le_refl n) hdvd) (le_roundUp ha)

theorem roundUp_one (n : Nat) : roundUp n 1 = n :=
  (roundUp_eq_self_iff Nat.one_pos).mpr (Nat.one_dvd n)

theorem roundUp_zero {a : Nat} (ha : 0 < a) : roundUp 0 a = 0 :=
  (roundUp_eq_self_iff ha).mpr (Nat.dvd_zero a)

theorem roundDown_eq_self_iff {n a : Nat} : roundDown n a = n ↔ a ∣ n := by
  constructor
  · intro h
    rw [← h]
    exact dvd_roundDown n a
  · intro hdvd
    exact Nat.le_antisymm (roundDown_le n a)
      (le_roundDown (Nat.le_refl n) hdvd)

/-- A number between two neighbouring multiples rounds to either of them. -/
theorem roundUp_eq_roundDown_add {n a : Nat} (ha : 0 < a) (h : ¬ a ∣ n) :
    roundUp n a = roundDown n a + a := by
  have hne : roundDown n a ≠ n := mt roundDown_eq_self_iff.mp h
  have hlt : roundDown n a < roundUp n a :=
    Nat.lt_of_lt_of_le (Nat.lt_of_le_of_ne (roundDown_le n a) hne)
      (le_roundUp ha)
  have hgap : a ≤ roundUp n a - roundDown n a :=
    Nat.le_of_dvd (Nat.sub_pos_of_lt hlt)
      (Nat.dvd_sub (dvd_roundUp n a) (dvd_roundDown n a))
  have hle : roundUp n a ≤ roundDown n a + a :=
    roundUp_le ha (Nat.le_of_lt (lt_roundDown_add ha))
      (Nat.dvd_add (dvd_roundDown n a) (Nat.dvd_refl a))
  omega

/-- Rounding up stays below a multiple exactly when the sum that it divides
does. -/
theorem roundUp_lt_iff {n m a : Nat} (ha : 0 < a) (hdvd : a ∣ m) :
    roundUp n a < m ↔ n + (a - 1) < m := by
  obtain ⟨k, rfl⟩ := hdvd
  rw [roundUp, Nat.mul_comm a k, Nat.mul_lt_mul_right ha,
    Nat.div_lt_iff_lt_mul ha]

theorem roundUp_roundUp_of_dvd {n a b : Nat} (ha : 0 < a) (hb : 0 < b)
    (hab : a ∣ b) : roundUp (roundUp n a) b = roundUp n b :=
  roundUp_eq_of_le_roundUp hb (le_roundUp ha)
    (roundUp_le_roundUp_of_dvd ha hb hab)

theorem roundDown_roundDown_of_dvd {n a b : Nat} (hab : a ∣ b) :
    roundDown (roundDown n a) b = roundDown n b := by
  have hdvd : a ∣ roundDown n b := Nat.dvd_trans hab (dvd_roundDown n b)
  have hge : roundDown n b ≤ roundDown n a :=
    le_roundDown (roundDown_le n b) hdvd
  exact Nat.le_antisymm (roundDown_mono (roundDown_le n a))
    (le_roundDown hge (dvd_roundDown n b))

/-! ## Powers of two -/

/-- Of two powers of two the smaller divides the larger. -/
theorem dvd_of_isPowerOfTwo_of_le {a b : Nat} (ha : a.isPowerOfTwo)
    (hb : b.isPowerOfTwo) (h : a ≤ b) : a ∣ b := by
  obtain ⟨j, rfl⟩ := ha
  obtain ⟨k, rfl⟩ := hb
  have hjk : j ≤ k := (Nat.pow_le_pow_iff_right (by decide)).mp h
  exact Nat.pow_dvd_pow 2 hjk

theorem isPowerOfTwo_max {a b : Nat} (ha : a.isPowerOfTwo)
    (hb : b.isPowerOfTwo) : (max a b).isPowerOfTwo := by
  rcases Nat.le_total a b with h | h
  · rwa [Nat.max_eq_right h]
  · rwa [Nat.max_eq_left h]

theorem roundUp_roundUp {n a b : Nat} (ha : a.isPowerOfTwo)
    (hb : b.isPowerOfTwo) :
    roundUp (roundUp n a) b = roundUp n (max a b) := by
  have hapos := Nat.pos_of_isPowerOfTwo ha
  have hbpos := Nat.pos_of_isPowerOfTwo hb
  rcases Nat.le_total a b with h | h
  · rw [Nat.max_eq_right h]
    exact roundUp_roundUp_of_dvd hapos hbpos (dvd_of_isPowerOfTwo_of_le ha hb h)
  · rw [Nat.max_eq_left h, roundUp_eq_self_iff hbpos]
    exact Nat.dvd_trans (dvd_of_isPowerOfTwo_of_le hb ha h) (dvd_roundUp n a)

theorem roundDown_roundDown {n a b : Nat} (ha : a.isPowerOfTwo)
    (hb : b.isPowerOfTwo) :
    roundDown (roundDown n a) b = roundDown n (max a b) := by
  rcases Nat.le_total a b with h | h
  · rw [Nat.max_eq_right h]
    exact roundDown_roundDown_of_dvd (dvd_of_isPowerOfTwo_of_le ha hb h)
  · rw [Nat.max_eq_left h, roundDown_eq_self_iff]
    exact Nat.dvd_trans (dvd_of_isPowerOfTwo_of_le hb ha h)
      (dvd_roundDown n a)

/-- The multiples of the larger of two powers of two are the common
multiples. -/
theorem max_dvd_iff {n a b : Nat} (ha : a.isPowerOfTwo)
    (hb : b.isPowerOfTwo) : max a b ∣ n ↔ a ∣ n ∧ b ∣ n := by
  constructor
  · intro h
    have hmax := isPowerOfTwo_max ha hb
    have hleft : a ∣ max a b :=
      dvd_of_isPowerOfTwo_of_le ha hmax (Nat.le_max_left a b)
    have hright : b ∣ max a b :=
      dvd_of_isPowerOfTwo_of_le hb hmax (Nat.le_max_right a b)
    exact ⟨Nat.dvd_trans hleft h, Nat.dvd_trans hright h⟩
  · rintro ⟨hleft, hright⟩
    rcases Nat.le_total a b with h | h
    · rwa [Nat.max_eq_right h]
    · rwa [Nat.max_eq_left h]

/-- The address limit is a multiple of every alignment up to it, so a size
stays below it with its padding exactly when it does without. -/
theorem roundUp_add_le_addressLimit_iff {n a : Nat} (ha : a.isPowerOfTwo) :
    roundUp n a + a ≤ addressLimit ↔ n + a ≤ addressLimit := by
  have hpos := Nat.pos_of_isPowerOfTwo ha
  constructor
  · intro h
    have hle := le_roundUp (n := n) hpos
    omega
  · intro h
    have hdvd : a ∣ addressLimit - a :=
      Nat.dvd_sub (dvd_addressLimit ha (by omega)) (Nat.dvd_refl a)
    have hround := roundUp_le (n := n) hpos (by omega) hdvd
    omega

theorem roundUp_lt_addressLimit_iff {n a : Nat} (ha : a.isPowerOfTwo)
    (hle : a ≤ addressLimit) :
    roundUp n a < addressLimit ↔ n + a ≤ addressLimit := by
  have hpos := Nat.pos_of_isPowerOfTwo ha
  rw [roundUp_lt_iff hpos (dvd_addressLimit ha hle)]
  omega

end AlignedStorage
