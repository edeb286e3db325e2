import AlignedStorage.Proofs.Layout.StorageSize
import AlignedStorage.Proofs.Storage.LastStore

/-!
# Array types and the layout asked for at run time

The layout of an array type follows from its fields: a marker without size,
then bytes, the whole rounded up to the alignment of the marker.  The layout
asked for at run time is checked and padded in one step.  Either both exist
and are the same, or there is neither the type nor the layout.
-/

namespace AlignedStorage

namespace Shape

/-- The fields of an array type in declared order: the marker of its
alignment, and its bytes. -/
def arrayFields? (align size : Nat) : Option (List Layout) := do
  return [← marker? align, ← Layout.ofType? size 1]

theorem layout?_array_eq_sequence (align size : Nat) :
    (array align size).layout? =
      (arrayFields? align size).bind Layout.sequence := by
  rw [layout?, arrayFields?]
  cases marker? align with
  | none => rfl
  | some marker => cases Layout.ofType? size 1 <;> rfl

/-- Behind the marker the bytes start where the type starts. -/
theorem fieldOffsets_arrayFields {align size : Nat} {fields : List Layout}
    (h : arrayFields? align size = some fields) :
    Layout.fieldOffsets 0 fields = [0, 0] ∧
      fields.map Layout.size = [0, size] := by
  simp only [arrayFields?, Option.pure_def, Option.bind_eq_bind,
    Option.bind_eq_some_iff, Option.some.injEq, marker?_eq_some_iff,
    Layout.ofType?_eq_some_iff] at h
  obtain ⟨marker, ⟨_, hmarker, _⟩, buffer, ⟨hsize, hbyte, _⟩, rfl⟩ := h
  have hstart : roundUp 0 marker.align = 0 := roundUp_zero marker.align_pos
  simp only [Layout.fieldOffsets, List.map_cons, List.map_nil, hstart,
    hmarker, hsize, hbyte, roundUp_one, Nat.add_zero, and_self]

end Shape

/-- An array type exists exactly when the layout of its alignment and size can
be asked for at run time, and has this layout; the type that the two numbers
name is the same one.  Its fields start at offset zero, the bytes no less than
the marker, so the slice of a storage value shows its first bytes, as many as
the type declares, and sets those only. -/
theorem array_layout_eq_storageLayout (align size : Nat) :
    (∀ l, (Shape.array align size).layout? = some l ↔
      storageLayout align size = .ok l) ∧
    (∀ l, (Shape.named align size).layout? = some l ↔
      storageLayout align size = .ok l) ∧
    (∀ e, storageLayout align size = .error e →
      (Shape.array align size).layout? = none) ∧
    (∀ l, (Shape.array align size).layout? = some l →
      ∃ fields, Shape.arrayFields? align size = some fields ∧
        Layout.sequence fields = some l ∧
        Layout.fieldOffsets 0 fields = [0, 0] ∧
        fields.map Layout.size = [0, size]) ∧
    ∀ s : Storage, s.shape = .array align size →
      storageLayout align size = .ok s.layout ∧ s.SliceViews size := by
  have hiff : ∀ l, (Shape.array align size).layout? = some l ↔
      storageLayout align size = .ok l := by
    intro l
    rw [Shape.layout?_array_eq_some_iff, storageLayout_eq_ok_iff_roundUp]
  refine ⟨hiff, hiff, fun e he ↦ ?_, fun l hl ↦ ?_, fun s hs ↦ ?_⟩
  · rw [Option.eq_none_iff_forall_ne_some]
    intro l hl
    have hok := (hiff l).mp hl
    rw [he] at hok
    cases hok
  · rw [Shape.layout?_array_eq_sequence] at hl
    obtain ⟨fields, hfields, hsequence⟩ := Option.bind_eq_some_iff.mp hl
    exact ⟨fields, hfields, hsequence, Shape.fieldOffsets_arrayFields hfields⟩
  · have hlayout := s.layout_eq
    rw [hs] at hlayout
    refine ⟨(hiff s.layout).mp hlayout, Storage.sliceViews ?_⟩
    rw [hs]
    rfl

/-- Five bytes at a multiple of thirty-two fill one storage value with their
padding.  The size that rounds up to 2^63 belongs to no type. -/
theorem array_layout_paddedFive :
    (Shape.array 32 5).layout? = some paddedFive ∧
      storageLayout 32 5 = .ok paddedFive ∧
      storageLayout 32 0x7fffffffffffffe1 =
        .error (.sizeOverflow 0x7fffffffffffffe1) ∧
      (Shape.array 32 0x7fffffffffffffe1).layout? = none ∧
      ∃ s : Storage, s.shape = .array 32 5 ∧ s.bytes.length = 32 ∧
        s.SliceViews 5 := by
  obtain ⟨hiff, _, _, _, hviews⟩ := array_layout_eq_storageLayout 32 5
  have htooLarge : storageLayout 32 0x7fffffffffffffe1 =
      .error (.sizeOverflow 0x7fffffffffffffe1) :=
    (storageLayout_eq_sizeOverflow_iff ⟨5, rfl⟩ (by decide)).mpr (by decide)
  obtain ⟨_, _, hnone, _⟩ :=
    array_layout_eq_storageLayout 32 0x7fffffffffffffe1
  let s : Storage :=
    ⟨.array 32 5, paddedFive, layout?_paddedFive, List.replicate 32 0xcc, rfl⟩
  exact ⟨layout?_paddedFive, (hiff paddedFive).mp layout?_paddedFive,
    htooLarge, hnone _ htooLarge, s, rfl, rfl, (hviews s rfl).2⟩

end AlignedStorage
