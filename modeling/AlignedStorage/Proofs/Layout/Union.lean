import AlignedStorage.Proofs.Layout.ArrayStorage
import AlignedStorage.Proofs.Layout.Demand

/-!
# The union of a list of candidates

Folding candidates pairwise, with padding at every step, answers exactly
their common demand.  So the fold depends on nothing else, and agrees with
the layout of an untagged union computed in one step and with that of array
storage.
-/

namespace AlignedStorage

namespace Layout

/-! ## The fold -/

/-- One step of the fold: the outcome so far answers the demand of the
candidates met, and afterwards that of one more. -/
theorem enclose_bind_unionWith {n a : Nat} (ha : a.isPowerOfTwo)
    (c : Layout) :
    (do let acc ← enclose n a; acc.unionWith c) =
      enclose (max n c.size) (max a c.align) :=
  (answers_enclose ha).unionWith_eq (.layout c.meets_self)

theorem enclose_bind_foldlM {n a : Nat} (ha : a.isPowerOfTwo)
    (ls : List Layout) :
    (do let acc ← enclose n a; ls.foldlM unionWith acc) =
      enclose (max n (maxSize ls)) (max a (maxAlign ls)) := by
  -- The demand met so far varies: the accumulator always encloses it.
  induction ls generalizing n a with
  | nil =>
      have hpos : 1 ≤ a := Nat.pos_of_isPowerOfTwo ha
      simp [Nat.max_eq_left hpos]
  | cons c ls ih =>
      calc
        (do let acc ← enclose n a; (c :: ls).foldlM unionWith acc) =
            (do
              let acc ← (do let acc ← enclose n a; acc.unionWith c)
              ls.foldlM unionWith acc) := by
          simp only [List.foldlM_cons, bind_assoc]
        _ = (do
              let acc ← enclose (max n c.size) (max a c.align)
              ls.foldlM unionWith acc) := by
          rw [enclose_bind_unionWith ha]
        _ = enclose (max (max n c.size) (maxSize ls))
              (max (max a c.align) (maxAlign ls)) :=
          ih (isPowerOfTwo_max ha c.align_isPowerOfTwo)
        _ = enclose (max n (maxSize (c :: ls)))
              (max a (maxAlign (c :: ls))) := by
          simp only [maxSize_cons, maxAlign_cons, Nat.max_assoc]

theorem enclose_filler : enclose 0 1 = .ok filler :=
  enclose_eq_ok_iff.mpr ⟨rfl, rfl⟩

/-- The fold over all candidates answers their common demand. -/
theorem union_eq_enclose (ls : List Layout) :
    union ls = enclose (maxSize ls) (maxAlign ls) := by
  have h := enclose_bind_foldlM (n := 0) Nat.isPowerOfTwo_one ls
  rw [enclose_filler, Nat.zero_max, Nat.max_eq_right (maxAlign_pos ls)] at h
  exact h

theorem union_eq_ok_iff {ls : List Layout} {l : Layout} :
    union ls = .ok l ↔
      l.size = roundUp (maxSize ls) (maxAlign ls) ∧ l.align = maxAlign ls := by
  rw [union_eq_enclose, enclose_eq_ok_iff]

theorem union_eq_error_iff {ls : List Layout} {f : Fault} :
    union ls = .error f ↔
      addressLimit < maxSize ls + maxAlign ls ∧ f = .unlayable := by
  rw [union_eq_enclose, enclose_eq_error_iff (isPowerOfTwo_maxAlign ls)]

theorem Regathered.union_eq {ls ms : List Layout} (h : Regathered ls ms) :
    union ms = union ls := by
  rw [union_eq_enclose, union_eq_enclose, h.demand_eq.1, h.demand_eq.2]

theorem exists_union_eq_ok_iff {ls : List Layout} :
    (∃ l, union ls = .ok l) ↔
      maxSize ls + maxAlign ls ≤ addressLimit := by
  rw [union_eq_enclose]
  exact exists_enclose_eq_ok_iff (isPowerOfTwo_maxAlign ls)

theorem exists_union_eq_error_iff {ls : List Layout} :
    (∃ f, union ls = .error f) ↔
      addressLimit < maxSize ls + maxAlign ls := by
  simp only [union_eq_error_iff, exists_and_left, exists_eq, and_true]

/-! ## The same in one step -/

theorem ofType?_eq_some_iff {size align : Nat} {l : Layout} :
    ofType? size align = some l ↔
      l.size = size ∧ l.align = align ∧ align ∣ size := by
  constructor
  · intro h
    unfold ofType? at h
    split at h
    · rename_i hvalid
      cases h
      exact ⟨rfl, rfl, hvalid.2.2.1⟩
    · cases h
  · rintro ⟨rfl, rfl, hdvd⟩
    have hpos := l.align_pos
    have hle := l.size_add_align_le
    exact dif_pos ⟨l.align_isPowerOfTwo, by omega, hdvd, by omega⟩

theorem overlay_eq_some_iff {ls : List Layout} {l : Layout} :
    overlay ls = some l ↔
      l.size = roundUp (maxSize ls) (maxAlign ls) ∧ l.align = maxAlign ls := by
  simp only [overlay, ofType?_eq_some_iff, dvd_roundUp, and_true]

/-- Rounding once at the end gives what padding at every step gives. -/
theorem overlay_eq_toOption_union (ls : List Layout) :
    overlay ls = (union ls).toOption := by
  ext l
  rw [overlay_eq_some_iff, ← union_eq_ok_iff]
  cases union ls <;> simp [Except.toOption]

theorem overlay_slots (ls : List Layout) :
    overlay (Shape.slots ls) = (union ls).toOption := by
  rw [overlay_eq_toOption_union, (regathered_slots ls).union_eq]

theorem layout?_union {ls : List Layout} (hpos : 0 < ls.length)
    (hle : ls.length ≤ maxCandidates) :
    (Shape.union ls).layout? = (union ls).toOption := by
  rw [← overlay_slots]
  exact if_pos ⟨hpos, hle⟩

/-- A union has the greatest size, rounded up once to the strictest
alignment, and ends in the fault of unreachable code exactly when that is
not addressable.  This is the layout of the untagged union of the candidates
with fillers in its free slots, and that of array storage. -/
theorem union_eq_oneStep (ls : List Layout) :
    (maxSize ls ≤ addressLimit - maxAlign ls →
      ∃ l, union ls = .ok l ∧
        l.size = roundUp (maxSize ls) (maxAlign ls) ∧
        l.align = maxAlign ls) ∧
    ((∃ f, union ls = .error f) ↔
      addressLimit - maxAlign ls < maxSize ls) ∧
    (∀ f, union ls = .error f →
      f.message = "internal error: entered unreachable code") ∧
    (union ls).toOption = overlay (Shape.slots ls) ∧
    (0 < ls.length → ls.length ≤ maxCandidates →
      (union ls).toOption = (Shape.union ls).layout?) ∧
    (maxAlign ls ≤ maxAlignment →
      (∀ l, union ls = .ok l ↔
        storageLayout (maxAlign ls) (maxSize ls) = .ok l) ∧
      ((∃ f, union ls = .error f) ↔
        storageLayout (maxAlign ls) (maxSize ls) =
          .error (.sizeOverflow (maxSize ls)))) := by
  have hpow := isPowerOfTwo_maxAlign ls
  have hlimit := maxAlign_le_addressLimit ls
  refine ⟨?_, ?_, ?_, (overlay_slots ls).symm, ?_, ?_⟩
  · intro hle
    obtain ⟨l, hl⟩ := exists_union_eq_ok_iff.mpr
      (show maxSize ls + maxAlign ls ≤ addressLimit by omega)
    exact ⟨l, hl, union_eq_ok_iff.mp hl⟩
  · rw [exists_union_eq_error_iff]
    omega
  · intro f hf
    obtain ⟨_, rfl⟩ := union_eq_error_iff.mp hf
    rfl
  · intro hpos hle
    exact (layout?_union hpos hle).symm
  · intro hle
    refine ⟨fun l ↦ ?_, ?_⟩
    · rw [storageLayout_eq_ok_iff hpow hle, union_eq_enclose]
    · rw [storageLayout_eq_sizeOverflow_iff hpow hle,
        exists_union_eq_error_iff]

/-- A byte-aligned layout nine bytes below the limit. -/
def nineBelowLimit : Layout :=
  ⟨0x7ffffffffffffff7, 1, Nat.isPowerOfTwo_one, by decide⟩

/-- Eight bytes at a multiple of eight. -/
def word : Layout :=
  ⟨8, 8, ⟨3, rfl⟩, by decide⟩

/-- Two candidates whose union ends one word below the limit. -/
def nearLimit : List Layout := [nineBelowLimit, word]

theorem union_nearLimit :
    maxSize nearLimit ≤ addressLimit - maxAlign nearLimit ∧
      0 < nearLimit.length ∧ nearLimit.length ≤ maxCandidates ∧
      maxAlign nearLimit ≤ maxAlignment ∧
      ∃ l, union nearLimit = .ok l ∧
        l.size = 0x7ffffffffffffff8 ∧ l.align = 8 ∧
        (Shape.union nearLimit).layout? = some l ∧
        storageLayout 8 0x7ffffffffffffff7 = .ok l := by
  have hlimit : maxSize nearLimit ≤ addressLimit - maxAlign nearLimit := by
    decide
  have hpos : 0 < nearLimit.length := by decide
  have hmax : nearLimit.length ≤ maxCandidates := by decide
  have halignment : maxAlign nearLimit ≤ maxAlignment := by decide
  obtain ⟨hok, _, _, _, hshape, hstorage⟩ := union_eq_oneStep nearLimit
  obtain ⟨l, hl, hsize, halign⟩ := hok hlimit
  refine ⟨hlimit, hpos, hmax, halignment, l, hl, hsize, halign, ?_, ?_⟩
  · rw [← hshape hpos hmax, hl]
    rfl
  · exact ((hstorage halignment).1 l).mp hl

end Layout

end AlignedStorage
