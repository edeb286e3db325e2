import AlignedStorage.Proofs.Layout.Union

/-!
# The least layout that holds all candidates

A union is least among all padded layouts into which every candidate fits,
whatever their alignments, and a fault means that there are none.
-/

namespace AlignedStorage

namespace Layout

/-- Values of every candidate can be placed in storage of the layout. -/
def HoldsAll (k : Layout) (candidates : List Layout) : Prop :=
  ∀ c ∈ candidates, fit c.size c.align k = .ok ()

theorem holdsAll_iff {k : Layout} {ls : List Layout} :
    k.HoldsAll ls ↔ maxSize ls ≤ k.size ∧ maxAlign ls ≤ k.align := by
  simp only [HoldsAll, fit_eq_ok_iff, maxSize_le_iff,
    maxAlign_le_iff k.align_pos]
  exact ⟨fun h ↦ ⟨fun c hc ↦ (h c hc).1, fun c hc ↦ (h c hc).2⟩,
    fun h c hc ↦ ⟨h.1 c hc, h.2 c hc⟩⟩

/-- A padded layout that holds all candidates, and is neither larger nor
more strictly aligned than any other that does. -/
structure IsLeastHolder (l : Layout) (candidates : List Layout) : Prop where
  dvd : l.align ∣ l.size
  holds : l.HoldsAll candidates
  le : ∀ k : Layout, k.align ∣ k.size → k.HoldsAll candidates →
    l.size ≤ k.size ∧ l.align ≤ k.align

theorem isLeastHolder_of_union {ls : List Layout} {l : Layout}
    (h : union ls = .ok l) : l.IsLeastHolder ls := by
  obtain ⟨hsize, halign⟩ := union_eq_ok_iff.mp h
  have hpos := maxAlign_pos ls
  refine ⟨?_, ?_, ?_⟩
  · rw [hsize, halign]
    exact dvd_roundUp _ _
  · rw [holdsAll_iff, hsize, halign]
    exact ⟨le_roundUp hpos, Nat.le_refl _⟩
  · intro k hk hholds
    obtain ⟨hks, hka⟩ := holdsAll_iff.mp hholds
    have hdvd : maxAlign ls ∣ k.align :=
      dvd_of_isPowerOfTwo_of_le (isPowerOfTwo_maxAlign ls)
        k.align_isPowerOfTwo hka
    rw [hsize, halign]
    exact ⟨roundUp_le hpos hks (Nat.dvd_trans hdvd hk), hka⟩

theorem IsLeastHolder.eq {l k : Layout} {ls : List Layout}
    (hl : l.IsLeastHolder ls) (hk : k.IsLeastHolder ls) : l = k := by
  have hlk := hl.le k hk.dvd hk.holds
  have hkl := hk.le l hl.dvd hl.holds
  exact ext (Nat.le_antisymm hlk.1 hkl.1) (Nat.le_antisymm hlk.2 hkl.2)

theorem exists_holdsAll_iff {ls : List Layout} :
    (∃ k : Layout, k.HoldsAll ls) ↔
      maxSize ls + maxAlign ls ≤ addressLimit := by
  constructor
  · rintro ⟨k, hk⟩
    obtain ⟨hsize, halign⟩ := holdsAll_iff.mp hk
    have hle := k.size_add_align_le
    omega
  · intro h
    obtain ⟨l, hl⟩ := exists_union_eq_ok_iff.mpr h
    exact ⟨l, (isLeastHolder_of_union hl).holds⟩

/-- The union is the least padded layout that holds every candidate, and
there is a fault instead exactly when no layout holds them all. -/
theorem union_universal (ls : List Layout) :
    (∀ l, union ls = .ok l ↔ l.IsLeastHolder ls) ∧
    ((∃ f, union ls = .error f) ↔ ¬ ∃ k : Layout, k.HoldsAll ls) := by
  refine ⟨fun l ↦ ⟨isLeastHolder_of_union, fun hl ↦ ?_⟩, ?_⟩
  · obtain ⟨k, hk⟩ := exists_union_eq_ok_iff.mpr
      (exists_holdsAll_iff.mp ⟨l, hl.holds⟩)
    rw [hl.eq (isLeastHolder_of_union hk)]
    exact hk
  · rw [exists_holdsAll_iff, exists_union_eq_error_iff, Nat.not_le]

end Layout

end AlignedStorage
