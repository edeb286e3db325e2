import AlignedStorage.Proofs.Address.Rounding
import AlignedStorage.Proofs.Alignment.Agreement

/-!
# The size of array storage

Array storage takes the least multiple of its alignment that holds the size
asked for.  The check comes before the rounding, on the size itself; as the
address limit is a multiple of the alignment, the size passes exactly when the
multiple is addressable.  No step of this computation leaves the words.
-/

namespace AlignedStorage

theorem storageLayout_eq_ok_iff_roundUp {align size : Nat} {l : Layout} :
    storageLayout align size = .ok l ↔
      align ∈ supportedAlignments ∧ l.size = roundUp size align ∧
        l.align = align := by
  by_cases hmem : align ∈ supportedAlignments
  · obtain ⟨hpow, hle⟩ := mem_supportedAlignments_iff.mp hmem
    rw [storageLayout_eq_ok_iff hpow hle, Layout.enclose_eq_ok_iff,
      and_iff_right hmem]
  · refine iff_of_false (fun h ↦ hmem ?_) fun h ↦ hmem h.1
    refine (Alignment.verdict_ofNat align).exists_ok_iff.mp ?_
    cases ha : Alignment.ofNat align with
    | ok a => exact ⟨a, rfl⟩
    | error e => simp [storageLayout, ha] at h

theorem le_addressLimit_of_supported {align : Nat}
    (h : align ∈ supportedAlignments) : align ≤ addressLimit :=
  Nat.le_trans (mem_supportedAlignments_iff.mp h).2 (by decide)

namespace Alignment

theorem exists_ofNat_eq_error_iff {n : Nat} :
    (∃ e, ofNat n = .error e) ↔ n ∉ supportedAlignments := by
  rw [← (verdict_ofNat n).exists_ok_iff]
  cases ofNat n <;> simp

theorem ofNat_eq_notPowerOfTwo_iff {n : Nat} :
    ofNat n = .error (.notPowerOfTwo n) ↔ n ≠ 0 ∧ ¬ n.isPowerOfTwo := by
  rw [(verdict_ofNat n).notPowerOfTwo_iff, mem_supportedAlignments_iff]
  by_cases hpow : n.isPowerOfTwo
  · refine iff_of_false ?_ fun h ↦ h.2 hpow
    rintro ⟨hmem, _, hlarge⟩
    rcases Nat.lt_or_ge maxAlignment n with hlt | hle
    · exact hlarge ⟨hpow, hlt⟩
    · exact hmem ⟨hpow, hle⟩
  · simp [hpow]

end Alignment

/-- The endings of a request for array storage. -/
inductive StorageVerdict (align size : Nat) :
    Except AlignmentError Layout → Prop
  | layout (l : Layout) (hmem : align ∈ supportedAlignments)
      (hsize : l.size = roundUp size align) (halign : l.align = align) :
      StorageVerdict align size (.ok l)
  | refused (e : AlignmentError) (he : Alignment.ofNat align = .error e) :
      StorageVerdict align size (.error e)
  | sizeOverflow (hmem : align ∈ supportedAlignments)
      (hover : addressLimit ≤ roundUp size align) :
      StorageVerdict align size (.error (.sizeOverflow size))

theorem storageVerdict (align size : Nat) :
    StorageVerdict align size (storageLayout align size) := by
  cases ha : Alignment.ofNat align with
  | error e =>
      simp only [storageLayout, ha]
      exact .refused e ha
  | ok a =>
      have hmem := (Alignment.verdict_ofNat align).exists_ok_iff.mp ⟨a, ha⟩
      obtain ⟨hvalue, _⟩ := Alignment.ofNat_eq_ok_iff.mp ha
      cases hl : Layout.ofSizeAlign size a.value with
      | ok l =>
          obtain ⟨hsize, halign⟩ := Layout.ofSizeAlign_eq_ok_iff.mp hl
          rw [hvalue] at halign
          simp only [storageLayout, ha, hl]
          refine .layout l.padToAlign hmem ?_ halign
          change roundUp l.size l.align = roundUp size align
          rw [hsize, halign]
      | error e =>
          -- A size that the check turns down rounds to the limit or past it.
          have hlt := (Layout.ofSizeAlign_eq_error_iff a.isPowerOfTwo).mp hl
          have hfit := roundUp_lt_addressLimit_iff (n := size)
            (mem_supportedAlignments_iff.mp hmem).1
            (le_addressLimit_of_supported hmem)
          simp only [storageLayout, ha, hl]
          exact .sizeOverflow hmem (by omega)

section

variable {align size : Nat} {x : Except AlignmentError Layout}

theorem StorageVerdict.exists_ok_iff (h : StorageVerdict align size x) :
    (∃ l, x = .ok l) ↔
      align ∈ supportedAlignments ∧ roundUp size align < addressLimit := by
  cases h with
  | layout l hmem hsize halign =>
      have hpos := l.align_pos
      have hle := l.size_add_align_le
      exact iff_of_true ⟨l, rfl⟩ ⟨hmem, by omega⟩
  | refused e he =>
      have hnot := Alignment.exists_ofNat_eq_error_iff.mp ⟨e, he⟩
      simp [hnot]
  | sizeOverflow hmem hover =>
      simp [Nat.not_lt.mpr hover]

theorem StorageVerdict.sizeOverflow_iff (h : StorageVerdict align size x) :
    x = .error (.sizeOverflow size) ↔
      align ∈ supportedAlignments ∧ addressLimit ≤ roundUp size align := by
  cases h with
  | layout l hmem hsize halign =>
      have hpos := l.align_pos
      have hle := l.size_add_align_le
      exact iff_of_false nofun fun hover ↦ by omega
  | refused e he =>
      have hnot := Alignment.exists_ofNat_eq_error_iff.mp ⟨e, he⟩
      -- The check of an alignment has no size to complain of.
      have hverdict := Alignment.verdict_ofNat align
      rw [he] at hverdict
      refine iff_of_false ?_ fun hmem ↦ hnot hmem.1
      rintro ⟨⟩
      cases hverdict
  | sizeOverflow hmem hover => exact iff_of_true rfl ⟨hmem, hover⟩

/-- An alignment is refused for the same reason as without a size. -/
theorem StorageVerdict.refused_iff (h : StorageVerdict align size x)
    {e : AlignmentError} (hne : e ≠ .sizeOverflow size) :
    x = .error e ↔ Alignment.ofNat align = .error e := by
  have hiff : (∃ e, Alignment.ofNat align = .error e) ↔
      align ∉ supportedAlignments := Alignment.exists_ofNat_eq_error_iff
  cases h with
  | layout l hmem hsize halign =>
      exact iff_of_false nofun fun he ↦ hiff.mp ⟨e, he⟩ hmem
  | refused f hf => rw [hf, Except.error.injEq, Except.error.injEq]
  | sizeOverflow hmem hover =>
      refine iff_of_false ?_ fun he ↦ hiff.mp ⟨e, he⟩ hmem
      rintro ⟨⟩
      exact hne rfl

end

/-! ## Exactness -/

/-- What holds of the rounded size holds of the least multiple. -/
theorem supported_and_roundUp_iff {align size : Nat} {P : Nat → Prop} :
    (align ∈ supportedAlignments ∧ P (roundUp size align)) ↔
      (align.isPowerOfTwo ∧ align ≤ maxAlignment) ∧
        ∃ m, IsLeastMultiple align size m ∧ P m := by
  rw [mem_supportedAlignments_iff]
  refine and_congr_right fun hmem ↦ ?_
  have hpos := Nat.pos_of_isPowerOfTwo hmem.1
  constructor
  · intro h
    exact ⟨roundUp size align, (isLeastMultiple_iff hpos).mpr rfl, h⟩
  · rintro ⟨m, hm, h⟩
    rwa [← (isLeastMultiple_iff hpos).mp hm]

section

variable {align size : Nat} {l : Layout}
  (h : storageLayout align size = .ok l)

include h

theorem isLeastMultiple_of_storageLayout :
    IsLeastMultiple align size l.size := by
  obtain ⟨hmem, hsize, _⟩ := storageLayout_eq_ok_iff_roundUp.mp h
  have hpow := (mem_supportedAlignments_iff.mp hmem).1
  exact (isLeastMultiple_iff (Nat.pos_of_isPowerOfTwo hpow)).mpr hsize

/-- The rounding is one of words: the sum with the mask does not overflow. -/
theorem alignUp_of_storageLayout :
    (⟨UInt64.ofNat size⟩ : Address).alignUp (UInt64.ofNat align) =
      .ok ⟨UInt64.ofNat l.size⟩ := by
  obtain ⟨hmem, hsize, halign⟩ := storageLayout_eq_ok_iff_roundUp.mp h
  obtain ⟨hpow, _⟩ := mem_supportedAlignments_iff.mp hmem
  have hlimit : addressLimit < UInt64.size := by decide
  have hfit := l.size_add_align_le
  have hle := (isLeastMultiple_of_storageLayout h).le
  have hwordSize : (UInt64.ofNat size).toNat = size :=
    UInt64.toNat_ofNat_of_lt' (by omega)
  have hwordAlign : (UInt64.ofNat align).toNat = align :=
    UInt64.toNat_ofNat_of_lt' (by omega)
  have hwordPow : (UInt64.ofNat align).toNat.isPowerOfTwo := by
    rwa [hwordAlign]
  rw [Address.alignUp_eq_ofNat hwordPow, Address.ofNat_eq_ok_iff, hwordAlign]
  change (UInt64.ofNat l.size).toNat = roundUp (UInt64.ofNat size).toNat align
  rw [hwordSize, ← hsize]
  exact UInt64.toNat_ofNat_of_lt' (by omega)

theorem storageLayout_self : storageLayout l.align l.size = .ok l := by
  obtain ⟨hmem, _, halign⟩ := storageLayout_eq_ok_iff_roundUp.mp h
  have hdvd := (isLeastMultiple_of_storageLayout h).dvd
  rw [← halign] at hmem hdvd
  rw [storageLayout_eq_ok_iff_roundUp, (roundUp_eq_self_iff l.align_pos).mpr hdvd]
  exact ⟨hmem, rfl, rfl⟩

/-- Less of a size at a weaker alignment takes no more storage. -/
theorem exists_storageLayout_le {align' size' : Nat}
    (hpow : align'.isPowerOfTwo) (halign : align' ≤ align)
    (hsize : size' ≤ size) :
    ∃ l', storageLayout align' size' = .ok l' ∧ l'.size ≤ l.size ∧
      l'.align ≤ l.align := by
  obtain ⟨hmem, hl, hlalign⟩ := storageLayout_eq_ok_iff_roundUp.mp h
  obtain ⟨hbig, hle⟩ := mem_supportedAlignments_iff.mp hmem
  have hpos := Nat.pos_of_isPowerOfTwo hpow
  have hround : roundUp size' align' ≤ roundUp size align := by
    calc
      roundUp size' align' ≤ roundUp size align' := roundUp_mono hpos hsize
      _ ≤ roundUp size align :=
        roundUp_le_roundUp_of_dvd hpos (Nat.pos_of_isPowerOfTwo hbig)
          (dvd_of_isPowerOfTwo_of_le hpow hbig halign)
  have hmem' : align' ∈ supportedAlignments :=
    mem_supportedAlignments_iff.mpr ⟨hpow, Nat.le_trans halign hle⟩
  have hlt : roundUp size' align' < addressLimit := by
    have hlpos := l.align_pos
    have hlfit := l.size_add_align_le
    omega
  obtain ⟨l', hl'⟩ :=
    (storageVerdict align' size').exists_ok_iff.mpr ⟨hmem', hlt⟩
  obtain ⟨_, hsize', halign'⟩ := storageLayout_eq_ok_iff_roundUp.mp hl'
  refine ⟨l', hl', ?_, ?_⟩
  · rw [hsize', hl]
    exact hround
  · rw [halign', hlalign]
    exact halign

end

/-- There is array storage exactly when the alignment is a power of two up to
2^29 and the least multiple of it that holds the size is less than 2^63.  The
layout has that alignment and that multiple as its size, words suffice to
compute it, and it asks for itself.  Otherwise the alignment is refused, for
the reason it has whatever the size, or the size is.  Storage of a larger size
or a stricter alignment is no smaller. -/
theorem storageLayout_exact (align size : Nat) :
    ((∃ l, storageLayout align size = .ok l) ↔
      (align.isPowerOfTwo ∧ align ≤ 0x20000000) ∧
        ∃ m, IsLeastMultiple align size m ∧ m ≤ 0x7fffffffffffffff) ∧
    (∀ l, storageLayout align size = .ok l →
      l.align = align ∧ IsLeastMultiple align size l.size ∧
      size ≤ l.size ∧ l.size < size + align ∧
      (⟨UInt64.ofNat size⟩ : Address).alignUp (UInt64.ofNat align) =
        .ok ⟨UInt64.ofNat l.size⟩ ∧
      storageLayout l.align l.size = .ok l ∧
      ∀ align' size', align'.isPowerOfTwo → align' ≤ align → size' ≤ size →
        ∃ l', storageLayout align' size' = .ok l' ∧ l'.size ≤ l.size ∧
          l'.align ≤ l.align) ∧
    (storageLayout align size = .error .zero ↔ align = 0) ∧
    (storageLayout align size = .error (.notPowerOfTwo align) ↔
      align ≠ 0 ∧ ¬ align.isPowerOfTwo) ∧
    (storageLayout align size = .error (.tooLarge align) ↔
      align.isPowerOfTwo ∧ 0x20000000 < align) ∧
    (storageLayout align size = .error (.sizeOverflow size) ↔
      (align.isPowerOfTwo ∧ align ≤ 0x20000000) ∧
        ∃ m, IsLeastMultiple align size m ∧ 0x7fffffffffffffff < m) := by
  have hverdict := storageVerdict align size
  have halign := Alignment.verdict_ofNat align
  have hlimit (m : Nat) : m < addressLimit ↔ m ≤ 0x7fffffffffffffff :=
    Nat.lt_succ_iff
  refine ⟨?_, fun l hl ↦ ?_, ?_, ?_, ?_, ?_⟩
  · rw [hverdict.exists_ok_iff, hlimit]
    exact supported_and_roundUp_iff (P := (· ≤ 0x7fffffffffffffff))
  · obtain ⟨hmem, hsize, hlalign⟩ := storageLayout_eq_ok_iff_roundUp.mp hl
    have hleast := isLeastMultiple_of_storageLayout hl
    have hpos :=
      Nat.pos_of_isPowerOfTwo (mem_supportedAlignments_iff.mp hmem).1
    refine ⟨hlalign, hleast, hleast.le, ?_, alignUp_of_storageLayout hl,
      storageLayout_self hl, fun align' size' hpow ha hs ↦
        exists_storageLayout_le hl hpow ha hs⟩
    rw [hsize]
    exact roundUp_lt hpos
  · rw [hverdict.refused_iff (e := .zero) nofun, halign.zero_iff]
  · rw [hverdict.refused_iff (e := .notPowerOfTwo align) nofun,
      Alignment.ofNat_eq_notPowerOfTwo_iff]
  · rw [hverdict.refused_iff (e := .tooLarge align) nofun]
    exact halign.tooLarge_iff
  · rw [hverdict.sizeOverflow_iff]
    exact supported_and_roundUp_iff (P := (0x7fffffffffffffff < ·))

/-- The greatest size at an alignment of four thousand and ninety-six is
followed by sizes that round up to 2^63. -/
theorem storageLayout_exact_page :
    (∃ l, storageLayout 4096 0x7ffffffffffff000 = .ok l ∧
      l.size = 0x7ffffffffffff000 ∧
      ∃ l', storageLayout 16 5 = .ok l' ∧ l'.size ≤ l.size) ∧
    storageLayout 4096 0x7ffffffffffff001 =
      .error (.sizeOverflow 0x7ffffffffffff001) ∧
    storageLayout 0x40000000 0 = .error (.tooLarge 0x40000000) := by
  have hpow : Nat.isPowerOfTwo 4096 := ⟨12, rfl⟩
  have hleast (n : Nat) : IsLeastMultiple 4096 n (roundUp n 4096) :=
    (isLeastMultiple_iff (by decide)).mpr rfl
  obtain ⟨hexists, hlayout, _⟩ := storageLayout_exact 4096 0x7ffffffffffff000
  obtain ⟨_, _, _, _, _, hover⟩ := storageLayout_exact 4096 0x7ffffffffffff001
  obtain ⟨_, _, _, _, hlarge, _⟩ := storageLayout_exact 0x40000000 0
  obtain ⟨l, hl⟩ := hexists.mpr ⟨⟨hpow, by decide⟩, _, hleast _, by decide⟩
  obtain ⟨_, hsize, _, _, _, _, hmono⟩ := hlayout l hl
  obtain ⟨l', hl', hle, _⟩ := hmono 16 5 ⟨4, rfl⟩ (by decide) (by decide)
  refine ⟨⟨l, hl, (isLeastMultiple_iff (by decide)).mp hsize, l', hl', hle⟩,
    hover.mpr ⟨⟨hpow, by decide⟩, _, hleast _, by decide⟩,
    hlarge.mpr ⟨⟨30, rfl⟩, by decide⟩⟩

end AlignedStorage
