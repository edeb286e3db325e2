import AlignedStorage.Proofs.Address.Rounding
import Mathlib.Data.UInt

/-!
# Nested roundings of addresses

Of two alignments the stricter decides where an address is rounded to, in
either order, and also whether the sum overflows: the stricter alignment has
its last multiple no later.  For one alignment the two roundings are monotone
and adjoint to the inclusion of the aligned addresses.
-/

namespace AlignedStorage

namespace Address

section

variable {m n : UInt64} (hm : m.toNat.isPowerOfTwo)
  (hn : n.toNat.isPowerOfTwo)

include hm hn

theorem isPowerOfTwo_toNat_max : (max m n).toNat.isPowerOfTwo := by
  rw [UInt64.toNat_max]
  exact isPowerOfTwo_max hm hn

theorem alignUp_bind_alignUp (x : Address) :
    (x.alignUp n).bind (·.alignUp m) = x.alignUp (max m n) := by
  have hmax := isPowerOfTwo_toNat_max hm hn
  rw [alignUp_eq_ofNat hn, alignUp_eq_ofNat hmax, UInt64.toNat_max,
    Nat.max_comm]
  apply ofNat_bind_eq
  · intro y hy
    rw [alignUp_eq_ofNat hm, hy, roundUp_roundUp hn hm]
  · intro hge
    have hdvd : n.toNat ∣ max n.toNat m.toNat :=
      dvd_of_isPowerOfTwo_of_le hn (isPowerOfTwo_max hn hm)
        (Nat.le_max_left n.toNat m.toNat)
    have hle := roundUp_le_roundUp_of_dvd (n := x.toNat)
      (Nat.pos_of_isPowerOfTwo hn)
      (Nat.pos_of_isPowerOfTwo (isPowerOfTwo_max hn hm)) hdvd
    exact Nat.le_trans hge hle

theorem alignDown_bind_alignDown (x : Address) :
    (x.alignDown n).bind (·.alignDown m) = x.alignDown (max m n) := by
  have hmax := isPowerOfTwo_toNat_max hm hn
  rw [alignDown_eq_ofNat hn, alignDown_eq_ofNat hmax, UInt64.toNat_max,
    Nat.max_comm]
  apply ofNat_bind_eq
  · intro y hy
    rw [alignDown_eq_ofNat hm, hy, roundDown_roundDown hn hm]
  · intro hge
    have hlt : roundDown x.toNat n.toNat < UInt64.size :=
      Nat.lt_of_le_of_lt (roundDown_le x.toNat n.toNat) x.toNat_lt
    exact absurd hge (Nat.not_le.mpr hlt)

theorem isAlignedTo_max_iff {x : Address} :
    x.isAlignedTo (max m n) = .ok true ↔
      x.isAlignedTo m = .ok true ∧ x.isAlignedTo n = .ok true := by
  rw [isAlignedTo_eq_true_iff (isPowerOfTwo_toNat_max hm hn),
    isAlignedTo_eq_true_iff hm, isAlignedTo_eq_true_iff hn,
    UInt64.toNat_max, max_dvd_iff hm hn]

end

section

variable {n : UInt64} (hn : n.toNat.isPowerOfTwo) {x y : Address}

include hn

theorem exists_alignUp_le (h : x.toNat ≤ y.toNat) {upper : Address}
    (hy : y.alignUp n = .ok upper) :
    ∃ up, x.alignUp n = .ok up ∧ up.toNat ≤ upper.toNat := by
  have hpos := Nat.pos_of_isPowerOfTwo hn
  rw [alignUp_eq_ofNat hn, ofNat_eq_ok_iff] at hy
  have hle : roundUp x.toNat n.toNat ≤ upper.toNat := by
    rw [hy]
    exact roundUp_mono hpos h
  obtain ⟨up, hup, hvalue⟩ :=
    exists_ofNat_eq_ok (Nat.lt_of_le_of_lt hle upper.toNat_lt)
  rw [← hvalue] at hle
  exact ⟨up, by rw [alignUp_eq_ofNat hn, hup], hle⟩

theorem exists_alignDown_le (h : x.toNat ≤ y.toNat) :
    ∃ down lower, y.alignDown n = .ok down ∧ x.alignDown n = .ok lower ∧
      lower.toNat ≤ down.toNat := by
  obtain ⟨down, hdown, hvalue⟩ := exists_alignDown_eq_ok hn y
  obtain ⟨lower, hlower, hleast⟩ := exists_alignDown_eq_ok hn x
  refine ⟨down, lower, hdown, hlower, ?_⟩
  rw [hvalue, hleast]
  exact roundDown_mono h

theorem exists_alignUp_le_iff (hy : y.isAlignedTo n = .ok true) :
    (∃ up, x.alignUp n = .ok up ∧ up.toNat ≤ y.toNat) ↔
      x.toNat ≤ y.toNat := by
  have hpos := Nat.pos_of_isPowerOfTwo hn
  have hdvd := (isAlignedTo_eq_true_iff hn).mp hy
  constructor
  · rintro ⟨up, hup, hle⟩
    rw [alignUp_eq_ofNat hn, ofNat_eq_ok_iff] at hup
    rw [hup] at hle
    exact (roundUp_le_iff hpos hdvd).mp hle
  · intro h
    exact exists_alignUp_le hn h ((alignUp_eq_self_iff hn).mpr hdvd)

theorem exists_le_alignDown_iff (hy : y.isAlignedTo n = .ok true) :
    (∃ down, x.alignDown n = .ok down ∧ y.toNat ≤ down.toNat) ↔
      y.toNat ≤ x.toNat := by
  have hdvd := (isAlignedTo_eq_true_iff hn).mp hy
  obtain ⟨down, hdown, hvalue⟩ := exists_alignDown_eq_ok hn x
  rw [← le_roundDown_iff hdvd, ← hvalue]
  constructor
  · rintro ⟨other, hother, hle⟩
    rw [hdown] at hother
    cases hother
    exact hle
  · intro hle
    exact ⟨down, hdown, hle⟩

end

/-- Two roundings in a row are the one rounding to the stricter alignment,
faults included, and an address has both alignments when it has the stricter.
Rounding again changes nothing.  Both roundings keep the order of addresses,
and rounding up keeps that there is a result for every address before one that
has a result.  The aligned addresses from an address on are those from its
rounding up on, and those up to it are those up to its rounding down. -/
theorem roundings_compose (x y : Address) {m n : UInt64}
    (hm : m.toNat.isPowerOfTwo) (hn : n.toNat.isPowerOfTwo) :
    (x.alignUp n).bind (·.alignUp m) = x.alignUp (max m n) ∧
    (x.alignUp m).bind (·.alignUp n) = x.alignUp (max m n) ∧
    (x.alignDown n).bind (·.alignDown m) = x.alignDown (max m n) ∧
    (x.alignDown m).bind (·.alignDown n) = x.alignDown (max m n) ∧
    (x.isAlignedTo (max m n) = .ok true ↔
      x.isAlignedTo m = .ok true ∧ x.isAlignedTo n = .ok true) ∧
    (x.alignUp n).bind (·.alignUp n) = x.alignUp n ∧
    (x.alignDown n).bind (·.alignDown n) = x.alignDown n ∧
    (x.toNat ≤ y.toNat →
      (∀ upper, y.alignUp n = .ok upper →
        ∃ up, x.alignUp n = .ok up ∧ up.toNat ≤ upper.toNat) ∧
      ∃ down lower, y.alignDown n = .ok down ∧ x.alignDown n = .ok lower ∧
        lower.toNat ≤ down.toNat) ∧
    (y.isAlignedTo n = .ok true →
      ((∃ up, x.alignUp n = .ok up ∧ up.toNat ≤ y.toNat) ↔
        x.toNat ≤ y.toNat) ∧
      ((∃ down, x.alignDown n = .ok down ∧ y.toNat ≤ down.toNat) ↔
        y.toNat ≤ x.toNat)) := by
  have hcomm : max m n = max n m := by
    rw [← UInt64.toNat_inj, UInt64.toNat_max, UInt64.toNat_max, Nat.max_comm]
  have hself : max n n = n := by
    rw [← UInt64.toNat_inj, UInt64.toNat_max, Nat.max_self]
  refine ⟨alignUp_bind_alignUp hm hn x, ?_, alignDown_bind_alignDown hm hn x,
    ?_, isAlignedTo_max_iff hm hn, ?_, ?_, ?_, ?_⟩
  · rw [hcomm]
    exact alignUp_bind_alignUp hn hm x
  · rw [hcomm]
    exact alignDown_bind_alignDown hn hm x
  · rw [alignUp_bind_alignUp hn hn, hself]
  · rw [alignDown_bind_alignDown hn hn, hself]
  · intro h
    exact ⟨fun upper hupper ↦ exists_alignUp_le hn h hupper,
      exists_alignDown_le hn h⟩
  · intro hy
    exact ⟨exists_alignUp_le_iff hn hy, exists_le_alignDown_iff hn hy⟩

/-- Fifteen bytes before the end of the words there is a multiple of eight
left, but none of sixteen: the fault comes with the second step. -/
theorem roundings_compose_atEnd :
    (8 : UInt64).toNat.isPowerOfTwo ∧ (16 : UInt64).toNat.isPowerOfTwo ∧
      (∃ up, (⟨0xfffffffffffffff1⟩ : Address).alignUp 8 = .ok up) ∧
      ((⟨0xfffffffffffffff1⟩ : Address).alignUp 8).bind (·.alignUp 16) =
        .error .addOverflow ∧
      (⟨0xfffffffffffffff0⟩ : Address).isAlignedTo 16 = .ok true ∧
      (∃ up, (⟨0xffffffffffffffe1⟩ : Address).alignUp 16 = .ok up ∧
        up.toNat ≤ 0xfffffffffffffff0) ∧
      ∃ down lower,
        (⟨0xfffffffffffffff0⟩ : Address).alignDown 16 = .ok down ∧
        (⟨0xffffffffffffffe1⟩ : Address).alignDown 16 = .ok lower ∧
        lower.toNat ≤ down.toNat := by
  have height : (8 : UInt64).toNat.isPowerOfTwo := ⟨3, rfl⟩
  have hsixteen : (16 : UInt64).toNat.isPowerOfTwo := ⟨4, rfl⟩
  obtain ⟨htwoSteps, _⟩ :=
    roundings_compose ⟨0xfffffffffffffff1⟩ ⟨0xfffffffffffffff0⟩ hsixteen height
  obtain ⟨_, _, _, _, _, _, _, hmono, hadjoint⟩ :=
    roundings_compose ⟨0xffffffffffffffe1⟩ ⟨0xfffffffffffffff0⟩ height hsixteen
  have hover : (⟨0xfffffffffffffff1⟩ : Address).alignUp (max 16 8) =
      .error .addOverflow := by
    rw [alignUp_eq_ofNat (isPowerOfTwo_toNat_max hsixteen height)]
    exact ofNat_eq_error_iff.mpr ⟨rfl, by decide⟩
  have hone : ∃ up, (⟨0xfffffffffffffff1⟩ : Address).alignUp 8 = .ok up := by
    rw [alignUp_eq_ofNat height]
    obtain ⟨up, hup, _⟩ := exists_ofNat_eq_ok (m := 0xfffffffffffffff8) (by decide)
    exact ⟨up, hup⟩
  have haligned : (⟨0xfffffffffffffff0⟩ : Address).isAlignedTo 16 = .ok true :=
    (isAlignedTo_eq_true_iff hsixteen).mpr (by decide)
  exact ⟨height, hsixteen, hone, htwoSteps.trans hover, haligned,
    (hadjoint haligned).1.mpr (by decide), (hmono (by decide)).2⟩

end Address

end AlignedStorage
