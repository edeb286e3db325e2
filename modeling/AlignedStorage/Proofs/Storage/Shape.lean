import AlignedStorage.Proofs.Layout.Union

/-!
# Layouts of storage types

The marker of an array takes up no room, so the bytes start at offset zero
and the size of the whole is theirs, rounded up to the alignment.  A storage
type of either kind is padded: its size is a multiple of its alignment.
-/

namespace AlignedStorage

section

variable {size align : Nat} {storage : Layout}

theorem fit_eq_larger_iff :
    fit size align storage = .error .larger ↔ storage.size < size := by
  unfold fit
  split
  · rename_i h
    exact iff_of_true rfl h
  · rename_i h
    refine iff_of_false (fun heq ↦ ?_) h
    split at heq <;> cases heq

theorem fit_eq_stricter_iff :
    fit size align storage = .error .stricter ↔
      size ≤ storage.size ∧ storage.align < align := by
  unfold fit
  split
  · rename_i h
    exact iff_of_false nofun fun hle ↦ Nat.not_le.mpr h hle.1
  · rename_i h
    rw [and_iff_right (Nat.le_of_not_lt h)]
    split
    · rename_i hlt
      exact iff_of_true rfl hlt
    · rename_i hle
      exact iff_of_false nofun hle

end

namespace Shape

theorem marker?_eq_some_iff {align : Nat} {l : Layout} :
    marker? align = some l ↔
      align ∈ supportedAlignments ∧ l.size = 0 ∧ l.align = align := by
  unfold marker?
  split
  · rename_i h
    simp [h, Layout.ofType?_eq_some_iff]
  · rename_i h
    simp [h]

/-- The fields of an array: behind a marker without size the bytes fill the
record from its start. -/
theorem sequence_marker_eq_some_iff {marker buffer l : Layout}
    (hmarker : marker.size = 0) (hbuffer : buffer.align = 1) :
    Layout.sequence [marker, buffer] = some l ↔
      l.size = roundUp buffer.size marker.align ∧
        l.align = marker.align := by
  have hpos : 0 < marker.align := marker.align_pos
  have hend : Layout.fieldsEnd 0 [marker, buffer] = buffer.size := by
    simp only [Layout.fieldsEnd, hmarker, hbuffer, roundUp_zero hpos,
      roundUp_one, Nat.zero_add]
  have halign : Layout.maxAlign [marker, buffer] = marker.align := by
    simp only [Layout.maxAlign_cons, Layout.maxAlign_nil, hbuffer]
    omega
  rw [Layout.sequence, hend, halign, Layout.ofType?_eq_some_iff]
  simp only [dvd_roundUp, and_true]

/-- Array storage exists for the supported alignments, with its size rounded
up to the alignment. -/
theorem layout?_array_eq_some_iff {align size : Nat} {l : Layout} :
    (array align size).layout? = some l ↔
      align ∈ supportedAlignments ∧ l.size = roundUp size align ∧
        l.align = align := by
  simp only [layout?, Option.bind_eq_bind, Option.bind_eq_some_iff,
    marker?_eq_some_iff, Layout.ofType?_eq_some_iff]
  constructor
  · rintro ⟨marker, ⟨hmem, hsize, rfl⟩, buffer, ⟨rfl, halign, _⟩, hl⟩
    exact ⟨hmem, (sequence_marker_eq_some_iff hsize halign).mp hl⟩
  · rintro ⟨hmem, hsize, rfl⟩
    have hpos := l.align_pos
    have hle := l.size_add_align_le
    have hround := le_roundUp (n := size) hpos
    let marker : Layout := ⟨0, l.align, l.align_isPowerOfTwo, by omega⟩
    let buffer : Layout := ⟨size, 1, Nat.isPowerOfTwo_one, by omega⟩
    have hl : Layout.sequence [marker, buffer] = some l :=
      (sequence_marker_eq_some_iff rfl rfl).mpr ⟨hsize, rfl⟩
    exact ⟨marker, ⟨hmem, rfl, rfl⟩, buffer, ⟨rfl, rfl, Nat.one_dvd _⟩, hl⟩

/-- Union storage exists for up to ten candidates, and one at least, that
can share it. -/
theorem layout?_union_eq_some_iff {candidates : List Layout} {l : Layout} :
    (union candidates).layout? = some l ↔
      (0 < candidates.length ∧ candidates.length ≤ maxCandidates) ∧
        l.size = roundUp (Layout.maxSize candidates)
          (Layout.maxAlign candidates) ∧
        l.align = Layout.maxAlign candidates := by
  by_cases hcount : 0 < candidates.length ∧ candidates.length ≤ maxCandidates
  · rw [Layout.layout?_union hcount.1 hcount.2, and_iff_right hcount,
      ← Layout.overlay_eq_toOption_union, Layout.overlay_eq_some_iff]
  · have hnone : (union candidates).layout? = none := if_neg hcount
    simp [hnone, hcount]

/-- Storage types are padded. -/
theorem align_dvd_size {s : Shape} {l : Layout} (h : s.layout? = some l) :
    l.align ∣ l.size := by
  cases s with
  | array align size =>
      obtain ⟨_, hsize, halign⟩ := layout?_array_eq_some_iff.mp h
      rw [hsize, halign]
      exact dvd_roundUp size align
  | union candidates =>
      obtain ⟨_, hsize, halign⟩ := layout?_union_eq_some_iff.mp h
      rw [hsize, halign]
      exact dvd_roundUp _ _

/-- The bytes that the slice of storage shows are part of the storage. -/
theorem sliceLength?_le {s : Shape} {l : Layout} {n : Nat}
    (h : s.layout? = some l) (hn : s.sliceLength? = some n) : n ≤ l.size := by
  cases s with
  | array align size =>
      cases hn
      obtain ⟨_, hsize, rfl⟩ := layout?_array_eq_some_iff.mp h
      rw [hsize]
      exact le_roundUp l.align_pos
  | union candidates => cases hn

end Shape

/-- The layout of five bytes at a multiple of thirty-two. -/
def paddedFive : Layout :=
  ⟨32, 32, ⟨5, rfl⟩, by decide⟩

theorem layout?_paddedFive : (Shape.array 32 5).layout? = some paddedFive := by
  decide

end AlignedStorage
