import AlignedStorage.Proofs.Storage.Store

/-!
# The last store wins

After any run of stores each byte is the one that the last store covering it
put there, or the one it was at first.  So a value is fetched back as long as
nothing was stored over its bytes, whatever was stored behind them, and the
slice and the pointer are two views of the same bytes.
-/

namespace AlignedStorage

namespace Store

/-- The byte that a run of stores leaves at an offset, if any of them covers
it. -/
def lastByte? : List Store → Nat → Option UInt8
  | [], _ => none
  | o :: stores, k => (lastByte? stores k).or (o.byteAt? k)

theorem lastByte?_eq_none_iff {stores : List Store} {k : Nat} :
    lastByte? stores k = none ↔ ∀ o ∈ stores, o.byteAt? k = none := by
  induction stores with
  | nil => simp [lastByte?]
  | cons o stores ih =>
      rw [lastByte?, Option.or_eq_none_iff, ih, List.forall_mem_cons]
      exact and_comm

theorem lastByte?_append (before after : List Store) (k : Nat) :
    lastByte? (before ++ after) k =
      (lastByte? after k).or (lastByte? before k) := by
  induction before with
  | nil => simp [lastByte?]
  | cons o before ih =>
      rw [List.cons_append, lastByte?, ih, lastByte?, Option.or_assoc]

theorem lastByte?_of_last {before after : List Store} {o : Store} {k : Nat}
    {b : UInt8} (ho : o.byteAt? k = some b)
    (hafter : ∀ p ∈ after, p.byteAt? k = none) :
    lastByte? (before ++ o :: after) k = some b := by
  rw [lastByte?_append, lastByte?, lastByte?_eq_none_iff.mpr hafter, ho]
  rfl

end Store

namespace Storage

section

variable {s s' : Storage} {stores : List Store}

theorem allowed_of_overlaid {o : Store} {new : Nat → Option UInt8}
    (h : s.Overlaid new s') (ho : o.Allowed s.shape s.layout) :
    o.Allowed s'.shape s'.layout := by
  rw [h.shape_eq, h.layout_eq]
  exact ho

/-- A run of allowed stores leaves the last byte stored at each offset. -/
theorem exists_storeAll_eq_ok
    (h : ∀ o ∈ stores, o.Allowed s.shape s.layout) :
    ∃ s', s.storeAll stores = .ok s' ∧
      s.Overlaid (Store.lastByte? stores) s' := by
  induction stores generalizing s with
  | nil => exact ⟨s, rfl, s.overlaid_self⟩
  | cons o stores ih =>
      obtain ⟨ho, hstores⟩ := List.forall_mem_cons.mp h
      obtain ⟨t, ht, hfirst⟩ := exists_store_eq_ok ho
      -- The type is kept, so what was allowed at first is allowed after it.
      obtain ⟨s', hs', hrest⟩ :=
        ih fun p hp ↦ allowed_of_overlaid hfirst (hstores p hp)
      refine ⟨s', ?_, hfirst.trans hrest⟩
      rw [storeAll, List.foldlM_cons, ht]
      exact hs'

/-- Each byte is the one that the last store covering it put there, and a
byte that no store covers is as it was. -/
structure LastStoreWins (stores : List Store) (s s' : Storage) : Prop where
  covered : ∀ before o after, stores = before ++ o :: after → ∀ {k b},
    o.byteAt? k = some b → (∀ p ∈ after, p.byteAt? k = none) →
    s'.bytes[k]? = some b
  uncovered : ∀ {k}, (∀ o ∈ stores, o.byteAt? k = none) →
    s'.bytes[k]? = s.bytes[k]?

theorem Overlaid.lastStoreWins (h : s.Overlaid (Store.lastByte? stores) s') :
    LastStoreWins stores s s' := by
  constructor
  · rintro before o after rfl k b ho hafter
    rw [h.getElem?, Store.lastByte?_of_last ho hafter, Option.some_or]
  · intro k huncovered
    rw [h.getElem?, Store.lastByte?_eq_none_iff.mpr huncovered,
      Option.none_or]

/-! ## Fetching a value -/

theorem fetch_eq_ok {α : Type} {T : PlainType α} {v : α}
    (hfit : fit T.size T.align s.layout = .ok ())
    (hbytes : ∀ k < T.size, s.bytes[k]? = (T.encode v)[k]?) :
    s.fetch T = .ok v := by
  have hlength := T.length_encode v
  have htake : s.bytes.take T.size = T.encode v := by
    apply List.ext_getElem?
    intro k
    by_cases hk : k < T.size
    · rw [List.getElem?_take_of_lt hk, hbytes k hk]
    · rw [List.getElem?_eq_none (by rw [List.length_take]; omega),
        List.getElem?_eq_none (by omega)]
  simp only [fetch, hfit, htake, T.decode_encode]

/-- A value is fetched as long as nothing was stored over its bytes. -/
theorem LastStoreWins.fetch_eq_ok {α : Type} {T : PlainType α} {v : α}
    {before after : List Store} (h : LastStoreWins stores s s')
    (hfit : fit T.size T.align s'.layout = .ok ())
    (hstores : stores = before ++ .ofValue T v :: after)
    (hafter : ∀ o ∈ after, ∀ k < T.size, o.byteAt? k = none) :
    s'.fetch T = .ok v := by
  refine Storage.fetch_eq_ok hfit fun k hk ↦ ?_
  have hlt : k < (T.encode v).length := by
    rw [T.length_encode]
    exact hk
  have hbyte : (Store.ofValue T v).byteAt? k = some (T.encode v)[k] :=
    List.getElem?_eq_getElem hlt
  rw [h.covered _ _ _ hstores hbyte fun o ho ↦ hafter o ho k hk,
    List.getElem?_eq_getElem hlt]

theorem fit_of_allowed_ofValue {α : Type} {T : PlainType α} {v : α}
    (h : (Store.ofValue T v).Allowed s.shape s.layout) :
    fit T.size T.align s.layout = .ok () := by
  rw [← T.length_encode v]
  exact h

/-! ## The two views -/

/-- The slice shows the first bytes of the storage and sets those as the
pointer does; it reaches none behind them. -/
structure SliceViews (s : Storage) (n : Nat) : Prop where
  exists_slice : ∃ shown, s.slice? = some shown ∧ shown.length = n ∧
    ∀ k < n, shown[k]? = s.bytes[k]?
  setByte_eq : ∀ {index}, index < n → ∀ b,
    s.setByte index b = s.store (.pointer index b)
  setByte_error : ∀ {index}, n ≤ index → ∀ b,
    s.setByte index b = .error (.fault (.indexOutOfBounds n index))

theorem sliceViews {n : Nat} (hn : s.shape.sliceLength? = some n) :
    s.SliceViews n := by
  have hle : n ≤ s.bytes.length := by
    rw [s.length_bytes]
    exact Shape.sliceLength?_le s.layout_eq hn
  constructor
  · refine ⟨s.bytes.take n, ?_, List.length_take_of_le hle, fun k hk ↦ ?_⟩
    · rw [slice?, hn]
      rfl
    · exact List.getElem?_take_of_lt hk
  · intro index hlt b
    exact setByte_of_lt hn hlt b
  · intro index hge b
    exact setByte_of_le hn hge b

theorem getElem?_of_zeroed? {shape : Shape} {fill : UInt8} {n k : Nat}
    (hs : zeroed? shape fill = some s) (hn : shape.sliceLength? = some n)
    (hk : k < n) : s.bytes[k]? = some 0 := by
  cases shape with
  | union candidates => cases hn
  | array align size =>
      unfold zeroed? at hs
      split at hs
      · cases hs
      · rename_i layout hlayout
        cases hs
        have hle : n ≤ layout.size := Shape.sliceLength?_le hlayout hn
        cases hn
        have hzeros : k < (List.replicate (min n layout.size)
            (0 : UInt8)).length := by
          rw [List.length_replicate]
          omega
        change (List.replicate (min n layout.size) 0 ++ _)[k]? = _
        rw [List.getElem?_append_left hzeros, List.getElem?_eq_getElem hzeros,
          List.getElem_replicate]

theorem step_of_fetch_eq_ok {v : Value}
    (h : s.fetch v.type.plain = .ok ⟨v, rfl⟩) :
    s.step (.borrow v.type) = .ok (s, .value v) ∧
      s.step (.read v.type) = .ok (s, .value v) := by
  have hread : s.read v.type = .ok v := by
    rw [read_eq_fetch, h]
    rfl
  simp only [step, hread, and_self]

theorem next_borrow (s : Storage) (t : ValueType) : s.next (.borrow t) = s := by
  cases h : s.read t <;> simp only [next, step, h]

theorem next_read (s : Storage) (t : ValueType) : s.next (.read t) = s :=
  s.next_borrow t

end

/-- A run of stores that fit and stay in bounds is carried out to its end.
Then each byte is the one that the last store covering it put there, or its
first one, which is zero in the bytes that zeroed storage declares.  A value
is fetched back if nothing was stored over its bytes since; storing one
leaves the bytes behind it alone, and reading changes nothing.  The slice and
the pointer show the same bytes, and what lies behind the slice is stored
through the pointer or with a value. -/
theorem storeAll_lastStoreWins (s : Storage) (stores : List Store)
    (h : ∀ o ∈ stores, o.Allowed s.shape s.layout) :
    ∃ s', s.storeAll stores = .ok s' ∧ s'.shape = s.shape ∧
      LastStoreWins stores s s' ∧
      (∀ shape fill n k, zeroed? shape fill = some s →
        shape.sliceLength? = some n → k < n →
        (∀ o ∈ stores, o.byteAt? k = none) → s'.bytes[k]? = some 0) ∧
      (∀ {α : Type} (T : PlainType α) (v : α) (before after : List Store),
        stores = before ++ .ofValue T v :: after →
        (∀ o ∈ after, ∀ k < T.size, o.byteAt? k = none) →
        s'.fetch T = .ok v) ∧
      (∀ {α : Type} (T : PlainType α) (v : α) (t : Storage),
        s'.store (.ofValue T v) = .ok t →
        ∀ k, T.size ≤ k → t.bytes[k]? = s'.bytes[k]?) ∧
      (∀ (v : Value) (before after : List Store),
        stores = before ++ .ofWrite v :: after →
        (∀ o ∈ after, ∀ k < v.type.size, o.byteAt? k = none) →
        s'.step (.borrow v.type) = .ok (s', .value v) ∧
          s'.step (.read v.type) = .ok (s', .value v)) ∧
      (∀ v t, s'.store (.ofWrite v) = .ok t ↔ s'.write v = .ok t) ∧
      (∀ t, s'.next (.borrow t) = s' ∧ s'.next (.read t) = s') ∧
      ∀ n, s.shape.sliceLength? = some n → s'.SliceViews n ∧
        ∀ o ∈ stores, ∀ k b, n ≤ k → o.byteAt? k = some b →
          (∃ align bytes, o = .place align bytes) ∨ o = .pointer k b := by
  obtain ⟨s', hs', hover⟩ := exists_storeAll_eq_ok h
  have hlast : LastStoreWins stores s s' := hover.lastStoreWins
  have hfetch : ∀ {α : Type} (T : PlainType α) (v : α)
      (before after : List Store), stores = before ++ .ofValue T v :: after →
      (∀ o ∈ after, ∀ k < T.size, o.byteAt? k = none) →
      s'.fetch T = .ok v := by
    intro α T v before after hstores hafter
    have hmem : Store.ofValue T v ∈ stores := by
      rw [hstores]
      exact List.mem_append_right before List.mem_cons_self
    have hfit : fit T.size T.align s'.layout = .ok () := by
      rw [hover.layout_eq]
      exact fit_of_allowed_ofValue (h _ hmem)
    exact hlast.fetch_eq_ok hfit hstores hafter
  refine ⟨s', hs', hover.shape_eq, hlast, ?_, hfetch, ?_, ?_,
    fun _ _ ↦ store_ofWrite_eq_ok_iff, ?_, ?_⟩
  · intro shape fill n k hzeroed hn hk huncovered
    rw [hlast.uncovered huncovered, getElem?_of_zeroed? hzeroed hn hk]
  · intro α T v t ht k hk
    rw [(overlaid_of_store_ofValue ht).getElem?,
      Store.byteAt?_ofValue_eq_none T v hk, Option.none_or]
  · intro v before after hstores hafter
    exact step_of_fetch_eq_ok
      (hfetch v.type.plain ⟨v, rfl⟩ before after hstores hafter)
  · exact fun t ↦ ⟨s'.next_borrow t, s'.next_read t⟩
  · intro n hn
    refine ⟨sliceViews (hover.shape_eq ▸ hn), fun o ho k b hk hb ↦ ?_⟩
    exact (h o ho).eq_place_or_pointer hn hk hb

/-- Five declared bytes, all zero, and behind them padding that is left as it
was. -/
def zeroedFive : Storage where
  shape := .array 32 5
  layout := paddedFive
  layout_eq := layout?_paddedFive
  bytes := List.replicate 5 0 ++ List.replicate 27 0xcc
  length_bytes := rfl

/-- A number of two bytes. -/
def twoBytes : Value where
  type := .int ⟨false, 1⟩
  elements := [0x0102]
  length_elements := rfl
  holds_of_mem := by decide

/-- A value, and behind it one byte through the slice and one in the
padding. -/
def mixedStores : List Store :=
  [.ofWrite twoBytes, .slice 4 9, .pointer 12 1]

/-- In zeroed storage the bytes between the value and the one set through the
slice stay zero, and the padding is as it was but for the byte set in it. -/
theorem storeAll_mixedStores :
    ∃ s s', zeroed? (.array 32 5) 0xcc = some s ∧
      (∀ o ∈ mixedStores, o.Allowed s.shape s.layout) ∧
      s.storeAll mixedStores = .ok s' ∧
      s'.step (.read twoBytes.type) = .ok (s', .value twoBytes) ∧
      s'.bytes[1]? = some 1 ∧ s'.bytes[2]? = some 0 ∧
      s'.bytes[3]? = some 0 ∧ s'.bytes[4]? = some 9 ∧
      s'.bytes[12]? = some 1 ∧ s'.bytes[15]? = some 0xcc := by
  have hzeroed : zeroed? (.array 32 5) 0xcc = some zeroedFive := rfl
  have hslice : zeroedFive.shape.sliceLength? = some 5 := rfl
  have hallowed : ∀ o ∈ mixedStores,
      o.Allowed zeroedFive.shape zeroedFive.layout := by
    intro o ho
    simp only [mixedStores, List.mem_cons, List.not_mem_nil, or_false] at ho
    rcases ho with rfl | rfl | rfl
    · exact fit_eq_ok_iff.mpr (by decide)
    · exact ⟨5, rfl, by decide⟩
    · exact show 12 < 32 by decide
  have hbehind : ∀ o ∈ [Store.slice 4 9, Store.pointer 12 1],
      ∀ k < 2, o.byteAt? k = none := by
    intro o ho k hk
    simp only [List.mem_cons, List.not_mem_nil, or_false] at ho
    rcases ho with rfl | rfl
    · exact if_neg (by omega)
    · exact if_neg (by omega)
  obtain ⟨s', hs', _, hlast, hzeros, _, _, hread, _⟩ :=
    storeAll_lastStoreWins zeroedFive mixedStores hallowed
  refine ⟨zeroedFive, s', hzeroed, hallowed, hs', ?_, ?_, ?_, ?_, ?_, ?_, ?_⟩
  · exact (hread twoBytes [] _ rfl hbehind).2
  · exact hlast.covered [] _ _ rfl rfl fun o ho ↦ hbehind o ho 1 (by decide)
  · exact hzeros _ _ 5 2 hzeroed hslice (by decide) (by decide)
  · exact hzeros _ _ 5 3 hzeroed hslice (by decide) (by decide)
  · exact hlast.covered [.ofWrite twoBytes] _ [.pointer 12 1] rfl rfl
      (by decide)
  · exact hlast.covered [.ofWrite twoBytes, .slice 4 9] _ [] rfl rfl nofun
  · exact hlast.uncovered (by decide)

end Storage

end AlignedStorage
