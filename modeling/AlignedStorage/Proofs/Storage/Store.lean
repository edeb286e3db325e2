import AlignedStorage.Storage.Basic
import AlignedStorage.Proofs.Storage.PlainType
import AlignedStorage.Proofs.Storage.Shape

/-!
# Stores

A store puts bytes into storage: a value at its start, one byte through the
slice, or one byte through the pointer.  All three do the same to the bytes.
Those that the store covers are replaced, all others stay, and the type of the
storage is what it was.
-/

namespace AlignedStorage

/-- One store into storage. -/
inductive Store
  | place (align : Nat) (bytes : List UInt8)
  | slice (index : Nat) (b : UInt8)
  | pointer (offset : Nat) (b : UInt8)

namespace Store

def ofValue {α : Type} (T : PlainType α) (v : α) : Store :=
  .place T.align (T.encode v)

def ofWrite (v : Value) : Store :=
  ofValue v.type.plain ⟨v, rfl⟩

/-- The byte a store puts at an offset, if it covers the offset. -/
def byteAt? : Store → Nat → Option UInt8
  | .place _ bytes, k => bytes[k]?
  | .slice index b, k => if k = index then some b else none
  | .pointer offset b, k => if k = offset then some b else none

/-- Values have to fit, and single bytes to lie within the slice or within
the storage. -/
def Allowed (shape : Shape) (layout : Layout) : Store → Prop
  | .place align bytes => fit bytes.length align layout = .ok ()
  | .slice index _ => ∃ n, shape.sliceLength? = some n ∧ index < n
  | .pointer offset _ => offset < layout.size

theorem byteAt?_ofValue_eq_none {α : Type} (T : PlainType α) (v : α)
    {k : Nat} (hk : T.size ≤ k) : (ofValue T v).byteAt? k = none := by
  change (T.encode v)[k]? = none
  rw [List.getElem?_eq_none_iff, T.length_encode]
  exact hk

/-- Through the slice nothing behind it is reached. -/
theorem Allowed.eq_place_or_pointer {o : Store} {shape : Shape}
    {layout : Layout} {n k : Nat} {b : UInt8} (h : o.Allowed shape layout)
    (hn : shape.sliceLength? = some n) (hk : n ≤ k)
    (hb : o.byteAt? k = some b) :
    (∃ align bytes, o = .place align bytes) ∨ o = .pointer k b := by
  cases o with
  | place align bytes => exact .inl ⟨align, bytes, rfl⟩
  | slice index c =>
      obtain ⟨m, hm, hlt⟩ := h
      cases hn.symm.trans hm
      have hne : k ≠ index := by omega
      simp [byteAt?, hne] at hb
  | pointer offset c =>
      by_cases hoffset : k = offset
      · simp only [byteAt?, hoffset, ↓reduceIte, Option.some.injEq] at hb
        rw [hoffset, hb]
        exact .inr rfl
      · simp [byteAt?, hoffset] at hb

end Store

namespace Storage

theorem ext {s t : Storage} (hshape : s.shape = t.shape)
    (hbytes : s.bytes = t.bytes) : s = t := by
  obtain ⟨shape, layout, hlayout, bytes, hlength⟩ := s
  obtain ⟨shape', layout', hlayout', bytes', hlength'⟩ := t
  cases hshape
  cases hbytes
  cases hlayout.symm.trans hlayout'
  rfl

theorem layout_eq_of_shape_eq {s t : Storage} (h : s.shape = t.shape) :
    s.layout = t.layout := by
  have heq := s.layout_eq
  rw [h, t.layout_eq] at heq
  exact (Option.some.inj heq).symm

theorem length_le_of_fit {s : Storage} {align : Nat} {bytes : List UInt8}
    (h : fit bytes.length align s.layout = .ok ()) :
    0 + bytes.length ≤ s.layout.size := by
  rw [Nat.zero_add]
  exact (fit_eq_ok_iff.mp h).1

/-- Places the bytes of a value of some alignment, overwriting whatever was
there. -/
def place (s : Storage) (align : Nat) (bytes : List UInt8) :
    Except Misfit Storage :=
  match h : fit bytes.length align s.layout with
  | .error e => .error e
  | .ok () => .ok (s.overwrite 0 bytes (length_le_of_fit h))

/-- The value of a plain type that the first bytes spell. -/
def fetch {α : Type} (s : Storage) (T : PlainType α) : Except Misfit α :=
  match fit T.size T.align s.layout with
  | .error e => .error e
  | .ok () => .ok (T.decode (s.bytes.take T.size))

def store (s : Storage) : Store → Except Refusal Storage
  | .place align bytes =>
      match s.place align bytes with
      | .error e => .error (.misfit e)
      | .ok s' => .ok s'
  | .slice index b => s.setByte index b
  | .pointer offset b => .ok (s.poke offset b)

def storeAll (s : Storage) (stores : List Store) : Except Refusal Storage :=
  stores.foldlM store s

/-! ## Integers are placed and fetched like any plain value -/

theorem write_eq_place (s : Storage) (v : Value) :
    s.write v = s.place v.type.align v.bytes := by
  have hlength : fit v.bytes.length v.type.align s.layout =
      fit v.type.size v.type.align s.layout := by
    rw [v.length_bytes]
  unfold write place
  split
  · rename_i e he
    split
    · rename_i e' he'
      rw [hlength, he] at he'
      cases he'
      rfl
    · rename_i hok
      rw [hlength, he] at hok
      cases hok
  · rename_i hok
    split
    · rename_i e he
      rw [hlength, hok] at he
      cases he
    · rfl

theorem read_eq_fetch (s : Storage) (t : ValueType) :
    s.read t = (s.fetch t.plain).map Subtype.val := by
  have hfit : fit t.plain.size t.plain.align s.layout =
      fit t.size t.align s.layout := rfl
  unfold read fetch
  rw [hfit]
  cases fit t.size t.align s.layout with
  | error e => rfl
  | ok u => exact congrArg Except.ok (Value.ofBytes_take t s.bytes).symm

theorem store_ofWrite_eq_ok_iff {s s' : Storage} {v : Value} :
    s.store (.ofWrite v) = .ok s' ↔ s.write v = .ok s' := by
  rw [write_eq_place]
  change s.store (.place v.type.align v.bytes) = .ok s' ↔ _
  rw [store]
  cases s.place v.type.align v.bytes <;> simp

/-! ## What a store does to the bytes -/

/-- Storage of the same type with some of the bytes replaced. -/
structure Overlaid (s : Storage) (new : Nat → Option UInt8) (s' : Storage) :
    Prop where
  shape_eq : s'.shape = s.shape
  getElem? : ∀ k, s'.bytes[k]? = (new k).or s.bytes[k]?

theorem overlaid_self (s : Storage) : s.Overlaid (fun _ ↦ none) s :=
  ⟨rfl, fun _ ↦ Option.none_or.symm⟩

theorem Overlaid.trans {s t u : Storage} {new newer : Nat → Option UInt8}
    (hst : s.Overlaid new t) (htu : t.Overlaid newer u) :
    s.Overlaid (fun k ↦ (newer k).or (new k)) u := by
  refine ⟨htu.shape_eq.trans hst.shape_eq, fun k ↦ ?_⟩
  rw [htu.getElem?, hst.getElem?, Option.or_assoc]

theorem Overlaid.layout_eq {s s' : Storage} {new : Nat → Option UInt8}
    (h : s.Overlaid new s') : s'.layout = s.layout :=
  layout_eq_of_shape_eq h.shape_eq

theorem getElem?_splice_zero (bytes new : List UInt8) (k : Nat) :
    (splice bytes 0 new)[k]? = new[k]?.or bytes[k]? := by
  rw [splice, List.take_zero, List.nil_append, Nat.zero_add,
    List.getElem?_append]
  split
  · rename_i hlt
    rw [List.getElem?_eq_getElem hlt, Option.some_or]
  · rename_i hle
    have hk : new.length + (k - new.length) = k := by omega
    have hnew : new[k]? = none :=
      List.getElem?_eq_none (Nat.le_of_not_lt hle)
    rw [List.getElem?_drop, hk, hnew, Option.none_or]

theorem overlaid_poke (s : Storage) {offset : Nat} (b : UInt8)
    (h : offset < s.layout.size) :
    s.Overlaid (fun k ↦ if k = offset then some b else none)
      (s.poke offset b) := by
  refine ⟨rfl, fun k ↦ ?_⟩
  have hlt : offset < s.bytes.length := by
    rw [s.length_bytes]
    exact h
  change (s.bytes.set offset b)[k]? = _
  by_cases hk : k = offset
  · subst hk
    rw [List.getElem?_set_self hlt, if_pos rfl, Option.some_or]
  · rw [List.getElem?_set_ne (Ne.symm hk), if_neg hk, Option.none_or]

theorem place_eq_ok_iff {s s' : Storage} {align : Nat} {bytes : List UInt8} :
    s.place align bytes = .ok s' ↔
      fit bytes.length align s.layout = .ok () ∧ s'.shape = s.shape ∧
        s'.bytes = splice s.bytes 0 bytes := by
  unfold place
  split
  · rename_i e he
    simp [he]
  · rename_i hfit
    rw [and_iff_right hfit, Except.ok.injEq]
    constructor
    · rintro rfl
      exact ⟨rfl, rfl⟩
    · rintro ⟨hshape, hbytes⟩
      exact (ext (t := s.overwrite 0 bytes _) hshape hbytes).symm

theorem overlaid_of_place_eq_ok {s s' : Storage} {align : Nat}
    {bytes : List UInt8} (h : s.place align bytes = .ok s') :
    s.Overlaid (fun k ↦ bytes[k]?) s' := by
  obtain ⟨_, hshape, hbytes⟩ := place_eq_ok_iff.mp h
  refine ⟨hshape, fun k ↦ ?_⟩
  rw [hbytes, getElem?_splice_zero]

theorem exists_place_eq_ok {s : Storage} {align : Nat} {bytes : List UInt8}
    (h : fit bytes.length align s.layout = .ok ()) :
    ∃ s', s.place align bytes = .ok s' :=
  ⟨s.overwrite 0 bytes (length_le_of_fit h),
    place_eq_ok_iff.mpr ⟨h, rfl, rfl⟩⟩

theorem overlaid_of_store_ofValue {s s' : Storage} {α : Type}
    {T : PlainType α} {v : α} (h : s.store (.ofValue T v) = .ok s') :
    s.Overlaid (Store.ofValue T v).byteAt? s' := by
  rw [Store.ofValue, store] at h
  split at h
  · cases h
  · rename_i t ht
    cases h
    exact overlaid_of_place_eq_ok ht

theorem setByte_of_lt {s : Storage} {n index : Nat}
    (hn : s.shape.sliceLength? = some n) (h : index < n) (b : UInt8) :
    s.setByte index b = .ok (s.poke index b) := by
  simp only [setByte, hn, h, ↓reduceIte]

theorem setByte_of_le {s : Storage} {n index : Nat}
    (hn : s.shape.sliceLength? = some n) (h : n ≤ index) (b : UInt8) :
    s.setByte index b = .error (.fault (.indexOutOfBounds n index)) := by
  simp only [setByte, hn, Nat.not_lt.mpr h, ↓reduceIte]

/-- One step: a store that is allowed is carried out, and replaces the bytes
it covers. -/
theorem exists_store_eq_ok {s : Storage} {o : Store}
    (h : o.Allowed s.shape s.layout) :
    ∃ s', s.store o = .ok s' ∧ s.Overlaid o.byteAt? s' := by
  cases o with
  | place align bytes =>
      obtain ⟨s', hs'⟩ := exists_place_eq_ok h
      refine ⟨s', ?_, overlaid_of_place_eq_ok hs'⟩
      simp only [store, hs']
  | slice index b =>
      obtain ⟨n, hn, hlt⟩ := h
      have hsize : n ≤ s.layout.size := Shape.sliceLength?_le s.layout_eq hn
      exact ⟨s.poke index b, setByte_of_lt hn hlt b,
        s.overlaid_poke b (Nat.lt_of_lt_of_le hlt hsize)⟩
  | pointer offset b => exact ⟨s.poke offset b, rfl, s.overlaid_poke b h⟩

end Storage

end AlignedStorage
