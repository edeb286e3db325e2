import AlignedStorage.Proofs.Address.Masks
import AlignedStorage.Proofs.Rounding

/-!
# Rounding of addresses

The roundings by masks are the roundings of unbounded numbers, taken back to
words.  Rounding down always ends in a word.  Rounding up adds the mask first,
and this sum leaves the word range exactly when the multiple it is rounded
down to does: no multiple of the alignment lies between the two.
-/

namespace AlignedStorage

namespace Address

theorem toNat_inj {x y : Address} : x.toNat = y.toNat ↔ x = y := by
  cases x
  cases y
  rw [toNat, toNat, UInt64.toNat_inj, Address.mk.injEq]

theorem toNat_lt (x : Address) : x.toNat < UInt64.size :=
  x.word.toNat_lt

/-! ## Back to words -/

/-- The address of a number.  A number that is no word is the sum of an
addition that overflows. -/
def ofNat (m : Nat) : Except Fault Address :=
  if m < UInt64.size then .ok ⟨UInt64.ofNat m⟩ else .error .addOverflow

theorem ofNat_eq_ok_iff {m : Nat} {y : Address} :
    ofNat m = .ok y ↔ y.toNat = m := by
  unfold ofNat
  split
  · rename_i hlt
    have hword : (UInt64.ofNat m).toNat = m := UInt64.toNat_ofNat_of_lt' hlt
    rw [Except.ok.injEq, ← toNat_inj, eq_comm]
    change y.toNat = (UInt64.ofNat m).toNat ↔ y.toNat = m
    rw [hword]
  · rename_i hge
    refine iff_of_false nofun ?_
    rintro rfl
    exact hge y.toNat_lt

theorem ofNat_eq_error_iff {m : Nat} {f : Fault} :
    ofNat m = .error f ↔ f = .addOverflow ∧ UInt64.size ≤ m := by
  unfold ofNat
  split
  · rename_i hlt
    exact iff_of_false nofun fun h ↦ Nat.not_le.mpr hlt h.2
  · rename_i hge
    rw [Except.error.injEq, eq_comm, and_iff_left (Nat.le_of_not_lt hge)]

theorem ofNat_of_le {m : Nat} (h : UInt64.size ≤ m) :
    ofNat m = .error .addOverflow :=
  ofNat_eq_error_iff.mpr ⟨rfl, h⟩

theorem exists_ofNat_eq_ok {m : Nat} (h : m < UInt64.size) :
    ∃ y, ofNat m = .ok y ∧ y.toNat = m :=
  ⟨⟨UInt64.ofNat m⟩, if_pos h, UInt64.toNat_ofNat_of_lt' h⟩

/-- Two steps are one operation on numbers, if a first result that is no word
leaves no word for the second. -/
theorem ofNat_bind_eq {m k : Nat} {f : Address → Except Fault Address}
    (hf : ∀ y : Address, y.toNat = m → f y = ofNat k)
    (hover : UInt64.size ≤ m → UInt64.size ≤ k) :
    (ofNat m).bind f = ofNat k := by
  rcases Nat.lt_or_ge m UInt64.size with hlt | hge
  · obtain ⟨y, hy, hvalue⟩ := exists_ofNat_eq_ok hlt
    rw [hy]
    exact hf y hvalue
  · rw [ofNat_of_le hge, ofNat_of_le (hover hge)]
    rfl

theorem add_eq_ofNat (x : Address) (n : UInt64) :
    x.add n = ofNat (x.toNat + n.toNat) := by
  have hword : UInt64.ofNat (x.toNat + n.toNat) = x.word + n := by
    rw [UInt64.ofNat_add, toNat, UInt64.ofNat_toNat, UInt64.ofNat_toNat]
  rw [add, addWords, ofNat, hword, toNat]
  split <;> rfl

theorem offsetFrom_eq_ok_iff {x y : Address} {d : UInt64} :
    x.offsetFrom y = .ok d ↔ x.toNat = y.toNat + d.toNat := by
  unfold offsetFrom
  split
  · rename_i hle
    have hdiff := UInt64.toNat_sub_of_le x.word y.word hle
    have hnat : y.toNat ≤ x.toNat := UInt64.le_iff_toNat_le.mp hle
    rw [Except.ok.injEq, ← UInt64.toNat_inj, hdiff]
    change x.toNat - y.toNat = d.toNat ↔ x.toNat = y.toNat + d.toNat
    omega
  · rename_i hgt
    refine iff_of_false nofun fun h ↦ hgt ?_
    exact UInt64.le_iff_toNat_le.mpr (Nat.le.intro h.symm)

/-! ## Alignments that are powers of two -/

section

variable {n : UInt64} (hn : n.toNat.isPowerOfTwo)

include hn

/-- The alignments of words divide the number of words. -/
theorem dvd_size : n.toNat ∣ UInt64.size :=
  dvd_of_isPowerOfTwo_of_le hn ⟨64, rfl⟩ (Nat.le_of_lt n.toNat_lt)

theorem alignDown_eq_ofNat (x : Address) :
    x.alignDown n = ofNat (roundDown x.toNat n.toNat) := by
  rw [alignDown_eq_ok hn, eq_comm, ofNat_eq_ok_iff]
  exact toNat_and_not_sub_one hn x.word

/-- Rounding up is adding the mask and rounding down. -/
theorem alignUp_eq_add_bind (x : Address) :
    x.alignUp n = (x.add (n - 1)).bind (·.alignDown n) := by
  have hmask : x.alignUp n =
      (addWords x.word (n - 1)).bind fun sum ↦ .ok ⟨sum &&& ~~~(n - 1)⟩ := by
    rw [alignUp, maskOf_eq_ok hn]
    rfl
  rw [hmask, add]
  cases addWords x.word (n - 1) with
  | error f => rfl
  | ok sum => exact (alignDown_eq_ok hn ⟨sum⟩).symm

theorem alignUp_eq_ofNat (x : Address) :
    x.alignUp n = ofNat (roundUp x.toNat n.toNat) := by
  -- The check is on the sum; the multiple below it leaves the words with it.
  have hcheck : roundUp x.toNat n.toNat < UInt64.size ↔
      x.toNat + (n.toNat - 1) < UInt64.size :=
    roundUp_lt_iff (Nat.pos_of_isPowerOfTwo hn) (dvd_size hn)
  rw [alignUp_eq_add_bind hn, add_eq_ofNat, toNat_sub_one hn]
  apply ofNat_bind_eq
  · intro sum hsum
    rw [alignDown_eq_ofNat hn, hsum, roundDown, roundUp]
  · intro hge
    exact Nat.le_of_not_lt (mt hcheck.mp (Nat.not_lt.mpr hge))

theorem isAlignedTo_eq_dvd (x : Address) :
    x.isAlignedTo n = .ok (decide (n.toNat ∣ x.toNat)) := by
  rw [isAlignedTo_eq_ok hn, and_sub_one_eq_mod hn, Except.ok.injEq,
    Bool.eq_iff_iff, beq_iff_eq, decide_eq_true_iff, ← UInt64.toNat_inj,
    UInt64.toNat_mod]
  exact Nat.dvd_iff_mod_eq_zero.symm

theorem isAlignedTo_eq_true_iff {x : Address} :
    x.isAlignedTo n = .ok true ↔ n.toNat ∣ x.toNat := by
  rw [isAlignedTo_eq_dvd hn, Except.ok.injEq, decide_eq_true_iff]

theorem alignDown_eq_self_iff {x : Address} :
    x.alignDown n = .ok x ↔ n.toNat ∣ x.toNat := by
  rw [alignDown_eq_ofNat hn, ofNat_eq_ok_iff, eq_comm, roundDown_eq_self_iff]

theorem alignUp_eq_self_iff {x : Address} :
    x.alignUp n = .ok x ↔ n.toNat ∣ x.toNat := by
  rw [alignUp_eq_ofNat hn, ofNat_eq_ok_iff, eq_comm,
    roundUp_eq_self_iff (Nat.pos_of_isPowerOfTwo hn)]

theorem exists_alignDown_eq_ok (x : Address) :
    ∃ down, x.alignDown n = .ok down ∧
      down.toNat = roundDown x.toNat n.toNat := by
  rw [alignDown_eq_ofNat hn]
  exact exists_ofNat_eq_ok
    (Nat.lt_of_le_of_lt (roundDown_le x.toNat n.toNat) x.toNat_lt)

/-- The multiples of the alignment end with the one that lies an alignment
before the end of the words. -/
theorem size_le_roundUp_iff (x : Address) :
    UInt64.size ≤ roundUp x.toNat n.toNat ↔
      UInt64.size - n.toNat < x.toNat := by
  have hpos := Nat.pos_of_isPowerOfTwo hn
  have hword : n.toNat ≤ UInt64.size := Nat.le_of_lt n.toNat_lt
  have hcheck := roundUp_lt_iff (n := x.toNat) hpos (dvd_size hn)
  omega

theorem offsetFrom_of_roundings {x up down : Address}
    (hup : x.alignUp n = .ok up) (hdown : x.alignDown n = .ok down) :
    up.offsetFrom down =
      .ok (if decide (n.toNat ∣ x.toNat) then 0 else n) := by
  have hpos := Nat.pos_of_isPowerOfTwo hn
  rw [alignUp_eq_ofNat hn, ofNat_eq_ok_iff] at hup
  rw [alignDown_eq_ofNat hn, ofNat_eq_ok_iff] at hdown
  rw [offsetFrom_eq_ok_iff, hup, hdown]
  by_cases hdvd : n.toNat ∣ x.toNat
  · rw [if_pos (decide_eq_true hdvd), (roundUp_eq_self_iff hpos).mpr hdvd,
      roundDown_eq_self_iff.mpr hdvd]
    rfl
  · rw [if_neg (by simpa using hdvd)]
    exact roundUp_eq_roundDown_add hpos hdvd

end

theorem maskOf_eq_error {n : UInt64} (hn : ¬ n.toNat.isPowerOfTwo) :
    maskOf n = .error .notPowerOfTwo :=
  if_neg hn

/-- Rounding down to a power of two gives the greatest multiple up to the
address.  Rounding up gives the least multiple from the address on, and a
fault of the sum when that multiple is no word; this holds of the addresses
less than an alignment from the end.  An address is aligned exactly when
either rounding leaves it alone, and the two results lie one alignment apart
otherwise.  Any other alignment is a fault of all three operations. -/
theorem roundings_exact (x : Address) (n : UInt64) :
    (n.toNat.isPowerOfTwo →
      (∃ down, x.alignDown n = .ok down ∧
        IsGreatestMultiple n.toNat x.toNat down.toNat) ∧
      (∃ m, IsLeastMultiple n.toNat x.toNat m ∧
        (m < UInt64.size → ∃ up, x.alignUp n = .ok up ∧ up.toNat = m) ∧
        (x.alignUp n = .error .addOverflow ↔ UInt64.size ≤ m) ∧
        (UInt64.size ≤ m ↔ UInt64.size - n.toNat < x.toNat)) ∧
      ∃ aligned, x.isAlignedTo n = .ok aligned ∧
        (aligned = true ↔ x.alignDown n = .ok x) ∧
        (aligned = true ↔ x.alignUp n = .ok x) ∧
        ∀ up down, x.alignUp n = .ok up → x.alignDown n = .ok down →
          up.offsetFrom down = .ok (if aligned then 0 else n)) ∧
    (¬ n.toNat.isPowerOfTwo →
      x.alignUp n = .error .notPowerOfTwo ∧
      x.alignDown n = .error .notPowerOfTwo ∧
      x.isAlignedTo n = .error .notPowerOfTwo) := by
  constructor
  · intro hn
    have hpos := Nat.pos_of_isPowerOfTwo hn
    refine ⟨?_, ⟨roundUp x.toNat n.toNat, ?_, ?_, ?_,
      size_le_roundUp_iff hn x⟩, decide (n.toNat ∣ x.toNat),
      isAlignedTo_eq_dvd hn x, ?_, ?_, ?_⟩
    · obtain ⟨down, hdown, hvalue⟩ := exists_alignDown_eq_ok hn x
      exact ⟨down, hdown, isGreatestMultiple_iff.mpr hvalue⟩
    · exact (isLeastMultiple_iff hpos).mpr rfl
    · intro hlt
      rw [alignUp_eq_ofNat hn]
      exact exists_ofNat_eq_ok hlt
    · rw [alignUp_eq_ofNat hn, ofNat_eq_error_iff, and_iff_right rfl]
    · rw [decide_eq_true_iff, alignDown_eq_self_iff hn]
    · rw [decide_eq_true_iff, alignUp_eq_self_iff hn]
    · intro up down hup hdown
      exact offsetFrom_of_roundings hn hup hdown
  · intro hn
    have hmask := maskOf_eq_error hn
    refine ⟨?_, ?_, ?_⟩
    · rw [alignUp, hmask]
      rfl
    · rw [alignDown, hmask]
      rfl
    · rw [isAlignedTo, hmask]
      rfl

/-- The last multiple of eight among the words is reached from the seven
addresses before it, and from none after it.  Twenty-four is no alignment. -/
theorem roundings_atEnd :
    (8 : UInt64).toNat.isPowerOfTwo ∧ ¬ (24 : UInt64).toNat.isPowerOfTwo ∧
      (∃ up down, (⟨0xfffffffffffffff1⟩ : Address).alignUp 8 = .ok up ∧
        (⟨0xfffffffffffffff1⟩ : Address).alignDown 8 = .ok down ∧
        up.toNat = 0xfffffffffffffff8 ∧ up.offsetFrom down = .ok 8) ∧
      (⟨0xfffffffffffffff9⟩ : Address).alignUp 8 = .error .addOverflow ∧
      (⟨48⟩ : Address).alignUp 24 = .error .notPowerOfTwo := by
  have height : (8 : UInt64).toNat.isPowerOfTwo := ⟨3, rfl⟩
  have hmixed : ¬ (24 : UInt64).toNat.isPowerOfTwo := by decide
  obtain ⟨⟨down, hdown, _⟩, ⟨m, hm, hreach, _⟩, aligned, _, hself, _, hapart⟩ :=
    (roundings_exact ⟨0xfffffffffffffff1⟩ 8).1 height
  obtain ⟨_, ⟨k, _, _, hover, hend⟩, _⟩ :=
    (roundings_exact ⟨0xfffffffffffffff9⟩ 8).1 height
  have hvalue : m = 0xfffffffffffffff8 :=
    (isLeastMultiple_iff (by decide)).mp hm
  rw [hvalue] at hreach
  obtain ⟨up, hup, hlast⟩ := hreach (by decide)
  have hfalse : aligned = false := by
    rw [Bool.eq_false_iff, Ne, hself, alignDown_eq_self_iff height]
    decide
  have hdistance := hapart up down hup hdown
  rw [hfalse] at hdistance
  exact ⟨height, hmixed, ⟨up, down, hup, hdown, hlast, hdistance⟩,
    hover.mpr (hend.mpr (by decide)), ((roundings_exact ⟨48⟩ 24).2 hmixed).1⟩

end Address

end AlignedStorage
