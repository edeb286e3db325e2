import AlignedStorage.Proofs.Layout.StorageSize
import AlignedStorage.Proofs.Storage.Store
import AlignedStorage.Storage.Suite

/-!
# Placement checks are exact

Values of a storage type lie at multiples of its alignment, in a slice too, as
the size is one as well.  The check of boxed values then says no more than that
the type has the size and the alignment asked for.  An alignment that passes
the comparison with the type is a power of two, so the check of the addresses
never meets another.  What is written byte by byte is read back: a write covers
one byte, and the byte is written once.
-/

namespace AlignedStorage

/-! ## Addresses -/

section

variable {align : UInt64} {misaligned : Address → Fault}
  {addresses : List Address}

/-- The endings of the check of addresses against an alignment. -/
inductive AddressVerdict (n : Nat) (misaligned : Address → Fault)
    (addresses : List Address) : Except Fault Unit → Prop
  | aligned (h : ∀ a ∈ addresses, n ∣ a.toNat) :
      AddressVerdict n misaligned addresses (.ok ())
  | misaligned (a : Address) (ha : a ∈ addresses) (hn : ¬ n ∣ a.toNat) :
      AddressVerdict n misaligned addresses (.error (misaligned a))

theorem AddressVerdict.cons {n : Nat} {x : Except Fault Unit} {a : Address}
    (h : AddressVerdict n misaligned addresses x) (ha : n ∣ a.toNat) :
    AddressVerdict n misaligned (a :: addresses) x := by
  cases h with
  | aligned hall => exact .aligned (List.forall_mem_cons.mpr ⟨ha, hall⟩)
  | misaligned b hb hn => exact .misaligned b (List.mem_cons_of_mem a hb) hn

theorem addressVerdict (hn : align.toNat.isPowerOfTwo) :
    AddressVerdict align.toNat misaligned addresses
      (checkAddresses align misaligned addresses) := by
  induction addresses with
  | nil => exact .aligned nofun
  | cons a rest ih =>
      rw [checkAddresses, Address.isAlignedTo_eq_dvd hn]
      by_cases ha : align.toNat ∣ a.toNat
      · rw [decide_eq_true ha]
        exact ih.cons ha
      · rw [decide_eq_false ha]
        exact .misaligned a List.mem_cons_self ha

theorem checkAddresses_eq_ok_iff (hn : align.toNat.isPowerOfTwo) :
    checkAddresses align misaligned addresses = .ok () ↔
      ∀ a ∈ addresses, align.toNat ∣ a.toNat := by
  have hverdict : AddressVerdict align.toNat misaligned addresses
      (checkAddresses align misaligned addresses) := addressVerdict hn
  generalize checkAddresses align misaligned addresses = x at hverdict
  cases hverdict with
  | aligned h => exact iff_of_true rfl h
  | misaligned a ha hn => exact iff_of_false nofun fun h ↦ hn (h a ha)

theorem repeatedInline_eq_ok_iff {slots locals : List Address}
    (hn : align.toNat.isPowerOfTwo) :
    repeatedInline slots locals align = .ok () ↔
      ∀ a ∈ slots ++ locals, align.toNat ∣ a.toNat := by
  have hslots : checkAddresses align (fun _ ↦ .slotMisaligned) slots = .ok () ↔
      ∀ a ∈ slots, align.toNat ∣ a.toNat := checkAddresses_eq_ok_iff hn
  have hlocals :
      checkAddresses align (fun _ ↦ .localMisaligned) locals = .ok () ↔
        ∀ a ∈ locals, align.toNat ∣ a.toNat := checkAddresses_eq_ok_iff hn
  rw [List.forall_mem_append, ← hslots, ← hlocals, repeatedInline]
  cases checkAddresses align (fun _ ↦ .slotMisaligned) slots with
  | ok u => simp
  | error f => simp

end

/-! ## Boxed values -/

/-- The endings of the check of boxed values. -/
inductive BoxVerdict (l : Layout) (boxes : List Address) (align size : Nat) :
    Except Fault Unit → Prop
  | tooSmall (hsize : l.size < size) :
      BoxVerdict l boxes align size (.error .storageTooSmall)
  | alignsDiffer (hsize : size ≤ l.size) (halign : align ≠ l.align) :
      BoxVerdict l boxes align size (.error (.valuesDiffer l.align align))
  | checked (x : Except Fault Unit) (hsize : size ≤ l.size)
      (halign : align = l.align)
      (hx : AddressVerdict l.align
        (fun a ↦ .boxMisaligned a.toNat align) boxes x) :
      BoxVerdict l boxes align size x

theorem boxVerdict (l : Layout) (boxes : List Address)
    (align size : UInt64) :
    BoxVerdict l boxes align.toNat size.toNat
      (repeatedBoxed l boxes align size) := by
  unfold repeatedBoxed
  split
  · rename_i hlt
    exact .tooSmall hlt
  · rename_i hle
    split
    · rename_i hne
      exact .alignsDiffer (Nat.le_of_not_lt hle) (Ne.symm hne)
    · rename_i heq
      -- What is compared from here on is the alignment of the layout.
      have halign : align.toNat = l.align := (Decidable.not_not.mp heq).symm
      have hpow : align.toNat.isPowerOfTwo := halign ▸ l.align_isPowerOfTwo
      refine .checked _ (Nat.le_of_not_lt hle) halign ?_
      rw [← halign]
      exact addressVerdict hpow

section

variable {l : Layout} {boxes : List Address} {align size : Nat}
  {x : Except Fault Unit}

theorem BoxVerdict.ok_iff (h : BoxVerdict l boxes align size x) :
    x = .ok () ↔
      (size ≤ l.size ∧ align = l.align) ∧ ∀ b ∈ boxes, l.align ∣ b.toNat := by
  cases h with
  | tooSmall hsize =>
      exact iff_of_false nofun fun h ↦ Nat.not_le.mpr hsize h.1.1
  | alignsDiffer hsize halign =>
      exact iff_of_false nofun fun h ↦ halign h.1.2
  | checked x hsize halign hx =>
      rw [and_iff_right ⟨hsize, halign⟩]
      cases hx with
      | aligned hall => exact iff_of_true rfl hall
      | misaligned b hb hn => exact iff_of_false nofun fun h ↦ hn (h b hb)

theorem BoxVerdict.tooSmall_iff (h : BoxVerdict l boxes align size x) :
    x = .error .storageTooSmall ↔ l.size < size := by
  cases h with
  | tooSmall hsize => exact iff_of_true rfl hsize
  | alignsDiffer hsize halign =>
      exact iff_of_false nofun (Nat.not_lt.mpr hsize)
  | checked x hsize halign hx =>
      refine iff_of_false ?_ (Nat.not_lt.mpr hsize)
      cases hx <;> nofun

theorem BoxVerdict.alignsDiffer_iff (h : BoxVerdict l boxes align size x) :
    x = .error (.valuesDiffer l.align align) ↔
      size ≤ l.size ∧ align ≠ l.align := by
  cases h with
  | tooSmall hsize =>
      exact iff_of_false nofun fun h ↦ Nat.not_le.mpr hsize h.1
  | alignsDiffer hsize halign => exact iff_of_true rfl ⟨hsize, halign⟩
  | checked x hsize halign hx =>
      refine iff_of_false ?_ fun h ↦ h.2 halign
      cases hx <;> nofun

/-- An alignment that is no power of two is no alignment of a type. -/
theorem BoxVerdict.ne_notPowerOfTwo (h : BoxVerdict l boxes align size x) :
    x ≠ .error .notPowerOfTwo := by
  rcases h with hsize | ⟨hsize, halign⟩ | ⟨x, hsize, halign, hx⟩
  · nofun
  · nofun
  · rcases hx with hall | ⟨b, hb, hn⟩ <;> nofun

end

/-! ## Where values come to lie -/

/-- The words have a multiple of an alignment where the numbers have one. -/
theorem dvd_toNat_ofNat {a n : Nat} (ha : a.isPowerOfTwo)
    (hle : a ≤ addressLimit) (h : a ∣ n) : a ∣ (UInt64.ofNat n).toNat := by
  have hword : a ∣ 2 ^ 64 :=
    dvd_of_isPowerOfTwo_of_le ha ⟨64, rfl⟩ (Nat.le_trans hle (by decide))
  rw [UInt64.toNat_ofNat']
  exact (Nat.dvd_mod_iff hword).mpr h

theorem dvd_of_mem_slotsFrom {a first stride : Nat} (ha : a.isPowerOfTwo)
    (hle : a ≤ addressLimit) (hfirst : a ∣ first) (hstride : a ∣ stride)
    {x : Address} (hx : x ∈ slotsFrom first stride) : a ∣ x.toNat := by
  obtain ⟨i, _, rfl⟩ := List.mem_map.mp hx
  apply dvd_toNat_ofNat ha hle
  exact Nat.dvd_add hfirst (Nat.dvd_mul_left_of_dvd hstride i)

theorem Placement.dvd_slots {l : Layout} (p : Placement l)
    (h : l.align ∣ l.size) : ∀ a ∈ p.slots, l.align ∣ a.toNat := by
  have hle : l.align ≤ addressLimit :=
    Nat.le_trans (Nat.le_add_left l.align l.size) l.size_add_align_le
  intro a ha
  exact dvd_of_mem_slotsFrom l.align_isPowerOfTwo hle p.dvd_first h ha

theorem Placement.repeatedInline_eq_ok {l : Layout} (p : Placement l)
    (h : l.align ∣ l.size) {align : UInt64} (hn : align.toNat.isPowerOfTwo)
    (hle : align.toNat ≤ l.align) :
    repeatedInline p.slots p.locals align = .ok () := by
  have hdvd : align.toNat ∣ l.align :=
    dvd_of_isPowerOfTwo_of_le hn l.align_isPowerOfTwo hle
  refine (repeatedInline_eq_ok_iff hn).mpr fun a ha ↦ ?_
  rcases List.mem_append.mp ha with hslot | hlocal
  · exact Nat.dvd_trans hdvd (p.dvd_slots h a hslot)
  · exact Nat.dvd_trans hdvd (p.dvd_locals a hlocal)

/-! ## Bytes written and read back -/

namespace Storage

/-- After as many rounds as `n`, the first `n` bytes are written and all others
are as before. -/
theorem overlaid_fillPattern (s : Storage) {n : Nat}
    (h : n ≤ s.layout.size) :
    s.Overlaid (fun k ↦ if k < n then some (patternByte k) else none)
      (fillPattern s n) := by
  induction n with
  | zero => exact s.overlaid_self
  | succ n ih =>
      have hbefore := ih (Nat.le_of_succ_le h)
      have hround : n < (fillPattern s n).layout.size := by
        rw [hbefore.layout_eq]
        exact h
      have hnew : (fun k ↦ if k < n + 1 then some (patternByte k) else none) =
          fun k ↦ (if k = n then some (patternByte n) else none).or
            (if k < n then some (patternByte k) else none) := by
        funext k
        rcases Nat.lt_trichotomy k n with hlt | rfl | hgt
        · simp [hlt, Nat.ne_of_lt hlt, Nat.lt_succ_of_lt hlt]
        · simp
        · simp [Nat.ne_of_gt hgt, Nat.not_lt.mpr (Nat.le_of_lt hgt),
            Nat.not_lt.mpr (Nat.succ_le_of_lt hgt)]
      -- The write of this round covers byte `n` alone, so all bytes written
      -- before it stay.
      rw [hnew]
      exact hbefore.trans
        ((fillPattern s n).overlaid_poke (patternByte n) hround)

theorem bytes_fillPattern (s : Storage) :
    (fillPattern s s.layout.size).bytes =
      (List.range' 0 s.layout.size).map patternByte := by
  apply List.ext_getElem?
  intro k
  rw [(s.overlaid_fillPattern (Nat.le_refl s.layout.size)).getElem?,
    List.getElem?_map]
  by_cases hk : k < s.layout.size
  · simp [hk]
  · have hlength : s.bytes.length ≤ k := by
      rw [s.length_bytes]
      exact Nat.le_of_not_lt hk
    simp [hk, hlength]

end Storage

theorem checkPattern_eq_ok_iff {offset : Nat} {bytes : List UInt8} :
    checkPattern offset bytes = .ok () ↔
      bytes = (List.range' offset bytes.length).map patternByte := by
  induction bytes generalizing offset with
  | nil => simp [checkPattern]
  | cons b rest ih =>
      rw [checkPattern, List.length_cons, List.range'_succ, List.map_cons,
        List.cons.injEq, ← ih]
      by_cases hb : b = patternByte offset
      · rw [if_pos hb, and_iff_right hb]
      · rw [if_neg hb]
        exact iff_of_false nofun fun h ↦ hb h.1

theorem fillAndRead_eq_ok (s : Storage) : fillAndRead s = .ok () := by
  have hbytes := s.bytes_fillPattern
  rw [fillAndRead, checkPattern_eq_ok_iff, hbytes, List.length_map,
    List.length_range']

/-! ## The tests of an array type -/

theorem exists_storage_array_iff {align size : Nat} :
    (∃ s : Storage, s.shape = .array align size) ↔
      align ∈ supportedAlignments ∧ roundUp size align < addressLimit := by
  rw [← (storageVerdict align size).exists_ok_iff]
  constructor
  · rintro ⟨s, hs⟩
    refine ⟨s.layout, storageLayout_eq_ok_iff_roundUp.mpr ?_⟩
    rw [← Shape.layout?_array_eq_some_iff, ← hs]
    exact s.layout_eq
  · rintro ⟨l, hl⟩
    have hlayout : (Shape.array align size).layout? = some l :=
      Shape.layout?_array_eq_some_iff.mpr
        (storageLayout_eq_ok_iff_roundUp.mp hl)
    exact ⟨⟨.array align size, l, hlayout, List.replicate l.size 0,
      List.length_replicate⟩, rfl⟩

theorem StorageTest.run_eq_ok {s again : Storage} (p : Placement s.layout)
    {align size : UInt64} (hs : s.shape = .array align.toNat size.toNat)
    (hagain : again.shape = s.shape) (test : StorageTest) :
    test.run s again p align size = .ok () := by
  have hlayout := s.layout_eq
  rw [hs, Shape.layout?_array_eq_some_iff] at hlayout
  obtain ⟨hmem, hsize, halign⟩ := hlayout
  have hpow := (mem_supportedAlignments_iff.mp hmem).1
  have hdvd := Shape.align_dvd_size s.layout_eq
  cases test with
  | boxed =>
      have hfits : size.toNat ≤ s.layout.size := by
        rw [hsize]
        exact le_roundUp (Nat.pos_of_isPowerOfTwo hpow)
      have hok : repeatedBoxed s.layout p.boxes align size = .ok () :=
        (boxVerdict s.layout p.boxes align size).ok_iff.mpr
          ⟨⟨hfits, halign.symm⟩, p.dvd_boxes⟩
      rw [run, hok, TestFailure.ofCheck]
  | inline =>
      rw [run, p.repeatedInline_eq_ok hdvd hpow (Nat.le_of_eq halign.symm),
        TestFailure.ofCheck]
  | fill => rw [run, fillAndRead_eq_ok, TestFailure.ofCheck]
  | idempotent =>
      have hasked : storageLayout align.toNat size.toNat = .ok s.layout :=
        storageLayout_eq_ok_iff_roundUp.mpr ⟨hmem, hsize, halign⟩
      rw [run, checkAgain, Storage.layout_eq_of_shape_eq hagain, hasked]
      simp

/-- With values at multiples of the alignment of their type, the check of boxed
values passes exactly when the type has the alignment asked for and no smaller
size; a smaller size is what it reports whatever the alignment.  Of values at
any addresses it passes none that is misaligned, and the alignment it tests
them for is always a power of two.  Values in a slice and local ones pass for
every power of two up to the alignment of the type, and of any addresses just
the multiples pass.  All bytes are read back as they were written, however many
there are, and no bytes pass but those written.  There is an array type for
each supported alignment and each size that can be padded to it, and all of its
tests pass. -/
theorem placement_checks_exact (s : Storage) (p : Placement s.layout)
    (align size : UInt64) :
    (repeatedBoxed s.layout p.boxes align size = .ok () ↔
      size.toNat ≤ s.layout.size ∧ align.toNat = s.layout.align) ∧
    (repeatedBoxed s.layout p.boxes align size = .error .storageTooSmall ↔
      s.layout.size < size.toNat) ∧
    (repeatedBoxed s.layout p.boxes align size =
        .error (.valuesDiffer s.layout.align align.toNat) ↔
      size.toNat ≤ s.layout.size ∧ align.toNat ≠ s.layout.align) ∧
    (∀ boxes, repeatedBoxed s.layout boxes align size ≠
        .error .notPowerOfTwo ∧
      (repeatedBoxed s.layout boxes align size = .ok () →
        ∀ b ∈ boxes, s.layout.align ∣ b.toNat)) ∧
    (align.toNat.isPowerOfTwo → align.toNat ≤ s.layout.align →
      repeatedInline p.slots p.locals align = .ok ()) ∧
    (align.toNat.isPowerOfTwo → ∀ slots locals,
      repeatedInline slots locals align = .ok () ↔
        ∀ a ∈ slots ++ locals, align.toNat ∣ a.toNat) ∧
    fillAndRead s = .ok () ∧
    (∀ offset bytes, checkPattern offset bytes = .ok () ↔
      bytes = (List.range' offset bytes.length).map UInt8.ofNat) ∧
    ((∃ t : Storage, t.shape = .array align.toNat size.toNat) ↔
      align.toNat ∈ supportedAlignments ∧
        roundUp size.toNat align.toNat < addressLimit) ∧
    (s.shape = .array align.toNat size.toNat →
      ∀ again : Storage, again.shape = .array align.toNat size.toNat →
        ∀ test : StorageTest, test.run s again p align size = .ok ()) := by
  have hboxed := boxVerdict s.layout p.boxes align size
  have hdvd := Shape.align_dvd_size s.layout_eq
  refine ⟨?_, hboxed.tooSmall_iff, hboxed.alignsDiffer_iff,
    fun boxes ↦ ?_, fun hn hle ↦ p.repeatedInline_eq_ok hdvd hn hle,
    fun hn slots locals ↦ repeatedInline_eq_ok_iff hn, fillAndRead_eq_ok s,
    fun _ _ ↦ checkPattern_eq_ok_iff, exists_storage_array_iff,
    fun hs again hagain test ↦ ?_⟩
  · rw [hboxed.ok_iff, and_iff_left p.dvd_boxes]
  · have hverdict := boxVerdict s.layout boxes align size
    exact ⟨hverdict.ne_notPowerOfTwo, fun hok ↦ (hverdict.ok_iff.mp hok).2⟩
  · exact StorageTest.run_eq_ok p hs (hagain.trans hs.symm) test

/-- Three hundred bytes at a multiple of one hundred and twenty-eight fill
three lines, so that the bytes written start again from zero. -/
theorem placement_checks_threeLines :
    ∃ (s : Storage) (p : Placement s.layout),
      s.shape = .array 128 300 ∧ s.layout.size = 384 ∧
      p.boxes = [⟨128⟩, ⟨640⟩] ∧
      repeatedBoxed s.layout p.boxes 128 384 = .ok () ∧
      repeatedBoxed s.layout p.boxes 64 385 = .error .storageTooSmall ∧
      repeatedBoxed s.layout p.boxes 64 384 =
        .error (.valuesDiffer 128 64) ∧
      repeatedInline p.slots p.locals 64 = .ok () ∧
      fillAndRead s = .ok () ∧ checkPattern 254 [254, 255, 0, 1] = .ok () ∧
      checkPattern 254 [254, 255, 1, 1] ≠ .ok () ∧
      ∀ test : StorageTest, test.run s s p 128 300 = .ok () := by
  obtain ⟨s, hs⟩ : ∃ s : Storage, s.shape = .array 128 300 :=
    exists_storage_array_iff.mpr (by decide)
  have hlayout := s.layout_eq
  rw [hs, Shape.layout?_array_eq_some_iff] at hlayout
  obtain ⟨_, hsize, halign⟩ := hlayout
  let p : Placement s.layout :=
    { boxes := [⟨128⟩, ⟨640⟩]
      first := ⟨0⟩
      locals := [⟨256⟩]
      dvd_boxes := by rw [halign]; decide
      dvd_first := by rw [halign]; decide
      dvd_locals := by rw [halign]; decide }
  obtain ⟨hok, _⟩ := placement_checks_exact s p 128 384
  obtain ⟨_, hsmall, _⟩ := placement_checks_exact s p 64 385
  obtain ⟨_, _, hdiffer, _, hinline, _, hfill, hpattern, _⟩ :=
    placement_checks_exact s p 64 384
  obtain ⟨_, _, _, _, _, _, _, _, _, htests⟩ :=
    placement_checks_exact s p 128 300
  rw [hsize, halign] at hok hdiffer
  rw [hsize] at hsmall
  rw [halign] at hinline
  exact ⟨s, p, hs, hsize, rfl, hok.mpr (by decide), hsmall.mpr (by decide),
    hdiffer.mpr (by decide), hinline ⟨6, rfl⟩ (by decide), hfill,
    (hpattern _ _).mpr (by decide), mt (hpattern _ _).mp (by decide),
    htests hs s hs⟩

end AlignedStorage
