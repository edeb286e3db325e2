import AlignedStorage.Address
import AlignedStorage.Proofs.Storage.Store

/-!
# Storage values in a row

Storage values of one type lie side by side from an address on that has their
alignment.  A value that fits is placed at the address of its slot: there it
is aligned, it stays within the slot and touches no other.  The check turns
down nothing else: a larger value leaves the slot, and a more strictly aligned
one is misaligned in some row.
-/

namespace AlignedStorage

/-- The addresses of a number of bytes from a first one on. -/
def bytesFrom (first count : Nat) : List Nat :=
  List.range' first count

theorem mem_bytesFrom {first count k : Nat} :
    k ∈ bytesFrom first count ↔ first ≤ k ∧ k < first + count :=
  List.mem_range'_1

theorem bytesFrom_subset {first n m : Nat} (h : n ≤ m) :
    bytesFrom first n ⊆ bytesFrom first m := by
  intro k hk
  rw [mem_bytesFrom] at hk ⊢
  omega

/-- Storage values of one type side by side.  The row starts at a multiple of
their alignment and ends within memory. -/
structure StorageRow where
  shape : Shape
  layout : Layout
  layout_eq : shape.layout? = some layout
  base : Address
  slots : List Storage
  shape_eq : ∀ s ∈ slots, s.shape = shape
  align_dvd_base : layout.align ∣ base.toNat
  end_le : base.toNat + slots.length * layout.size ≤ UInt64.size

namespace StorageRow

variable {r : StorageRow} {i j size align : Nat}

/-- The address of a slot, which is that of whatever is placed in it. -/
def address (r : StorageRow) (i : Nat) : Address :=
  ⟨UInt64.ofNat (r.base.toNat + i * r.layout.size)⟩

/-- The addresses of the bytes of a slot. -/
def extent (r : StorageRow) (i : Nat) : List Nat :=
  bytesFrom (r.address i).toNat r.layout.size

/-- The bytes of all slots in order, as they lie in memory from the base
on. -/
def image (r : StorageRow) : List UInt8 :=
  r.slots.flatMap Storage.bytes

theorem layout_eq_of_layout? (r : StorageRow) {layout : Layout}
    (h : r.shape.layout? = some layout) : r.layout = layout := by
  rw [r.layout_eq] at h
  exact Option.some.inj h

theorem toNat_address (hi : i < r.slots.length) :
    (r.address i).toNat = r.base.toNat + i * r.layout.size := by
  have hbase : r.base.toNat < UInt64.size := r.base.word.toNat_lt_size
  have hend := r.end_le
  have hslot : i * r.layout.size + r.layout.size ≤
      r.slots.length * r.layout.size := by
    rw [← Nat.succ_mul]
    exact Nat.mul_le_mul_right _ hi
  -- Slots of no bytes all lie at the base.
  have hlt : r.base.toNat + i * r.layout.size < UInt64.size := by
    rcases Nat.eq_zero_or_pos r.layout.size with hzero | hpos
    · rw [hzero, Nat.mul_zero, Nat.add_zero]
      exact hbase
    · omega
  exact UInt64.toNat_ofNat_of_lt hlt

theorem align_dvd_address (hi : i < r.slots.length) :
    r.layout.align ∣ (r.address i).toNat := by
  -- The slots follow each other without a gap, since storage is padded.
  have hsize : r.layout.align ∣ r.layout.size :=
    Shape.align_dvd_size r.layout_eq
  rw [toNat_address hi]
  exact Nat.dvd_add r.align_dvd_base (Nat.dvd_mul_left_of_dvd hsize i)

theorem not_mem_extent_of_lt {k : Nat} (hj : j < r.slots.length)
    (hij : i < j) (hk : k ∈ r.extent i) : k ∉ r.extent j := by
  have hend : (i + 1) * r.layout.size ≤ j * r.layout.size :=
    Nat.mul_le_mul_right _ hij
  rw [Nat.succ_mul] at hend
  rw [extent, mem_bytesFrom, toNat_address (Nat.lt_trans hij hj)] at hk
  rw [extent, mem_bytesFrom, toNat_address hj]
  omega

theorem eq_of_mem_extent {k : Nat} (hi : i < r.slots.length)
    (hj : j < r.slots.length) (hki : k ∈ r.extent i) (hkj : k ∈ r.extent j) :
    j = i := by
  rcases Nat.lt_trichotomy i j with hij | heq | hji
  · exact absurd hkj (not_mem_extent_of_lt hj hij hki)
  · exact heq.symm
  · exact absurd hki (not_mem_extent_of_lt hi hji hkj)

/-- A value of a size and an alignment has its place in a slot: it is
aligned at the address of the slot, stays within the slot and overlaps no
other. -/
structure HasPlace (r : StorageRow) (i size align : Nat) : Prop where
  aligned : align ∣ (r.address i).toNat
  within : bytesFrom (r.address i).toNat size ⊆ r.extent i
  apart : ∀ j < r.slots.length, j ≠ i →
    ∀ k ∈ bytesFrom (r.address i).toNat size, k ∉ r.extent j

theorem hasPlace_of_fit (ha : align.isPowerOfTwo)
    (hfit : fit size align r.layout = .ok ()) (hi : i < r.slots.length) :
    r.HasPlace i size align := by
  obtain ⟨hsize, halign⟩ := fit_eq_ok_iff.mp hfit
  have hdvd : align ∣ r.layout.align :=
    dvd_of_isPowerOfTwo_of_le ha r.layout.align_isPowerOfTwo halign
  have hwithin : bytesFrom (r.address i).toNat size ⊆ r.extent i :=
    bytesFrom_subset hsize
  refine ⟨Nat.dvd_trans hdvd (align_dvd_address hi), hwithin, ?_⟩
  intro j hj hne k hk hkj
  exact hne (eq_of_mem_extent hi hj (hwithin hk) hkj)

theorem not_subset_extent (h : r.layout.size < size) :
    ¬ bytesFrom (r.address i).toNat size ⊆ r.extent i := by
  intro hsubset
  -- The byte right behind the slot is one of the larger value.
  have hmem : (r.address i).toNat + r.layout.size ∈
      bytesFrom (r.address i).toNat size :=
    mem_bytesFrom.mpr ⟨Nat.le_add_right _ _, Nat.add_lt_add_left h _⟩
  exact Nat.lt_irrefl _ (mem_bytesFrom.mp (hsubset hmem)).2

/-- A single slot at its own alignment, the first address there is. -/
theorem exists_row_at_align {shape : Shape} {layout : Layout}
    (h : shape.layout? = some layout) :
    ∃ r : StorageRow, r.shape = shape ∧ r.slots.length = 1 ∧
      (r.address 0).toNat = layout.align := by
  have hle := layout.size_add_align_le
  have hlimit : addressLimit < UInt64.size := by decide
  have hword : (UInt64.ofNat layout.align).toNat = layout.align :=
    UInt64.toNat_ofNat_of_lt (Nat.lt_of_le_of_lt (by omega) hlimit)
  let s : Storage :=
    ⟨shape, layout, h, List.replicate layout.size 0, List.length_replicate⟩
  let r : StorageRow :=
    { shape := shape
      layout := layout
      layout_eq := h
      base := ⟨UInt64.ofNat layout.align⟩
      slots := [s]
      shape_eq := fun t ht ↦ by rw [List.mem_singleton.mp ht]
      align_dvd_base := by
        simpa only [Address.toNat, hword] using Nat.dvd_refl layout.align
      end_le := by
        rw [Address.toNat, hword, List.length_singleton, Nat.one_mul]
        omega }
  refine ⟨r, rfl, rfl, ?_⟩
  have haddress := toNat_address (r := r) (i := 0) (Nat.zero_lt_one)
  rw [haddress, Nat.zero_mul, Nat.add_zero]
  exact hword

/-! ## The bytes of a row -/

theorem layout_eq_of_mem {s : Storage} (hs : s ∈ r.slots) :
    s.layout = r.layout := by
  have h := s.layout_eq
  rw [r.shape_eq s hs] at h
  exact (r.layout_eq_of_layout? h).symm

theorem length_bytes_of_mem {s : Storage} (hs : s ∈ r.slots) :
    s.bytes.length = r.layout.size := by
  rw [s.length_bytes, layout_eq_of_mem hs]

/-- The offset of a slot in the row. -/
def offset (r : StorageRow) (i : Nat) : Nat :=
  (r.address i).toNat - r.base.toNat

theorem offset_eq (hi : i < r.slots.length) :
    r.offset i = i * r.layout.size := by
  rw [offset, toNat_address hi, Nat.add_sub_cancel_left]

theorem length_flatMap_bytes {slots : List Storage} {n : Nat}
    (hslots : ∀ s ∈ slots, s.bytes.length = n) :
    (slots.flatMap Storage.bytes).length = slots.length * n := by
  induction slots with
  | nil => simp
  | cons first slots ih =>
      obtain ⟨hfirst, hrest⟩ := List.forall_mem_cons.mp hslots
      rw [List.flatMap_cons, List.length_append, hfirst, ih hrest,
        List.length_cons, Nat.succ_mul, Nat.add_comm]

theorem length_flatMap_bytes_take (hi : i < r.slots.length) :
    ((r.slots.take i).flatMap Storage.bytes).length = r.offset i := by
  rw [length_flatMap_bytes fun s hs ↦
      length_bytes_of_mem (List.mem_of_mem_take hs),
    List.length_take_of_le (Nat.le_of_lt hi), offset_eq hi]

theorem image_eq (hi : i < r.slots.length) :
    r.image = (r.slots.take i).flatMap Storage.bytes ++
      (r.slots[i].bytes ++
        (r.slots.drop (i + 1)).flatMap Storage.bytes) := by
  rw [← List.flatMap_cons, ← List.drop_eq_getElem_cons hi,
    ← List.flatMap_append, List.take_append_drop, image]

theorem flatMap_bytes_set (hi : i < r.slots.length) (s : Storage) :
    (r.slots.set i s).flatMap Storage.bytes =
      (r.slots.take i).flatMap Storage.bytes ++
        (s.bytes ++ (r.slots.drop (i + 1)).flatMap Storage.bytes) := by
  rw [List.set_eq_take_append_cons_drop, if_pos hi, List.flatMap_append,
    List.flatMap_cons]

theorem splice_append {before middle after new : List UInt8}
    (h : new.length ≤ middle.length) :
    splice (before ++ (middle ++ after)) before.length new =
      before ++ (splice middle 0 new ++ after) := by
  simp only [splice, List.take_left, List.drop_length_add_append,
    List.drop_append_of_le_length h, List.take_zero, List.nil_append,
    Nat.zero_add, List.append_assoc]

/-- A value placed in a slot goes to the address of the slot, and is fetched
from there. -/
structure AccessesAt (r : StorageRow) (i size align : Nat)
    (hi : i < r.slots.length) : Prop where
  place : ∀ bytes : List UInt8, bytes.length = size →
    ∃ s, r.slots[i].place align bytes = .ok s ∧
      (r.slots.set i s).flatMap Storage.bytes =
        splice r.image (r.offset i) bytes
  fetch : ∀ {α : Type} (T : PlainType α), T.size = size → T.align = align →
    r.slots[i].fetch T =
      .ok (T.decode ((r.image.drop (r.offset i)).take size))

theorem accessesAt_of_fit (hfit : fit size align r.layout = .ok ())
    (hi : i < r.slots.length) : r.AccessesAt i size align hi := by
  have hmem : r.slots[i] ∈ r.slots := List.getElem_mem hi
  have hslot : fit size align r.slots[i].layout = .ok () := by
    rw [layout_eq_of_mem hmem]
    exact hfit
  have hsize : size ≤ r.slots[i].bytes.length := by
    rw [length_bytes_of_mem hmem]
    exact (fit_eq_ok_iff.mp hfit).1
  constructor
  · rintro bytes rfl
    obtain ⟨s, hs⟩ := Storage.exists_place_eq_ok hslot
    obtain ⟨_, _, hbytes⟩ := Storage.place_eq_ok_iff.mp hs
    refine ⟨s, hs, ?_⟩
    rw [flatMap_bytes_set hi, image_eq hi, ← length_flatMap_bytes_take hi,
      splice_append hsize, hbytes]
  · rintro α T rfl rfl
    have htake : (r.image.drop (r.offset i)).take T.size =
        r.slots[i].bytes.take T.size := by
      rw [image_eq hi, ← length_flatMap_bytes_take hi, List.drop_left]
      exact List.take_append_of_le_length hsize
    simp only [Storage.fetch, hslot, htake]

end StorageRow

/-- What the check lets through is placed in bounds and aligned in every slot
of every row, at the address of the slot.  What it turns down as too large
leaves its slot wherever that is, and what it turns down as too strictly
aligned is misaligned in some row. -/
theorem fit_iff_hasPlace {shape : Shape} {layout : Layout}
    (hlayout : shape.layout? = some layout) (size : Nat) {align : Nat}
    (ha : align.isPowerOfTwo) :
    (fit size align layout = .ok () → ∀ r : StorageRow, r.shape = shape →
      ∀ i, (hi : i < r.slots.length) →
        r.HasPlace i size align ∧ r.AccessesAt i size align hi) ∧
    (fit size align layout = .error .larger →
      ∀ r : StorageRow, r.shape = shape → ∀ i < r.slots.length,
        ¬ bytesFrom (r.address i).toNat size ⊆ r.extent i) ∧
    (fit size align layout = .error .stricter →
      ∃ r : StorageRow, r.shape = shape ∧
        ∃ i < r.slots.length, ¬ align ∣ (r.address i).toNat) := by
  refine ⟨?_, ?_, ?_⟩
  · rintro hfit r rfl i hi
    have hfit' : fit size align r.layout = .ok () := by
      rw [r.layout_eq_of_layout? hlayout]
      exact hfit
    exact ⟨StorageRow.hasPlace_of_fit ha hfit' hi,
      StorageRow.accessesAt_of_fit hfit' hi⟩
  · rintro hlarger r rfl i _
    apply StorageRow.not_subset_extent
    rw [r.layout_eq_of_layout? hlayout]
    exact fit_eq_larger_iff.mp hlarger
  · intro hstricter
    obtain ⟨r, hr, hcount, haddress⟩ := StorageRow.exists_row_at_align hlayout
    refine ⟨r, hr, 0, by omega, fun hdvd ↦ ?_⟩
    have hlt : layout.align < align := (fit_eq_stricter_iff.mp hstricter).2
    rw [haddress] at hdvd
    exact Nat.not_le.mpr hlt (Nat.le_of_dvd layout.align_pos hdvd)

/-- Eight arrays of five bytes in a row. -/
def stackRow : StorageRow where
  shape := .array 32 5
  layout := paddedFive
  layout_eq := layout?_paddedFive
  base := ⟨0x1000⟩
  slots := List.replicate 8
    ⟨.array 32 5, paddedFive, layout?_paddedFive, List.replicate 32 0, rfl⟩
  shape_eq := fun s hs ↦ by rw [List.eq_of_mem_replicate hs]
  align_dvd_base := by decide
  end_le := by decide

theorem hasPlace_stackRow :
    (Shape.array 32 5).layout? = some paddedFive ∧
      Nat.isPowerOfTwo 8 ∧ Nat.isPowerOfTwo 64 ∧
      (∀ i < 8, stackRow.HasPlace i 24 8) ∧
      ∃ r : StorageRow, r.shape = .array 32 5 ∧
        ∃ i < r.slots.length, ¬ 64 ∣ (r.address i).toNat := by
  have height : Nat.isPowerOfTwo 8 := ⟨3, rfl⟩
  have hsixtyFour : Nat.isPowerOfTwo 64 := ⟨6, rfl⟩
  obtain ⟨hfits, _⟩ := fit_iff_hasPlace layout?_paddedFive 24 height
  obtain ⟨_, _, hstricter⟩ := fit_iff_hasPlace layout?_paddedFive 0 hsixtyFour
  refine ⟨layout?_paddedFive, height, hsixtyFour, fun i hi ↦ ?_,
    hstricter (fit_eq_stricter_iff.mpr (by decide))⟩
  exact (hfits (fit_eq_ok_iff.mpr (by decide)) stackRow rfl i hi).1

end AlignedStorage
