import AlignedStorage.Storage.Value

/-!
# Types without padding

A plain type spells each of its values by as many bytes as the type has and
can tell the value from them.  Fixed-width integers and arrays of them are
plain types: what is written little endian is read back, and the bytes behind
a value are never looked at.
-/

namespace AlignedStorage

/-- A type whose values are nothing but their bytes. -/
structure PlainType (α : Type) where
  size : Nat
  align : Nat
  encode : α → List UInt8
  decode : List UInt8 → α
  length_encode : ∀ v, (encode v).length = size
  decode_encode : ∀ v, decode (encode v) = v

/-! ## Integers -/

theorem ofLittleEndian_littleEndian (width n : Nat) :
    ofLittleEndian (littleEndian width n) = n % (1 <<< (8 * width)) := by
  induction width generalizing n with
  | zero => simp [littleEndian, ofLittleEndian, Nat.mod_one]
  | succ width ih =>
      have hbyte : (UInt8.ofNat n).toNat = n % 256 := UInt8.toNat_ofNat'
      have hpow : 1 <<< (8 * (width + 1)) = 256 * 1 <<< (8 * width) := by
        rw [Nat.mul_add, Nat.mul_one, Nat.add_comm, Nat.shiftLeft_add]
        simp only [Nat.shiftLeft_eq, Nat.one_mul]
      rw [littleEndian, ofLittleEndian, ih, hbyte, hpow, Nat.mod_mul]

namespace IntKind

theorem wrap_emod (k : IntKind) (x : Int) :
    k.wrap (x % k.modulus) = k.wrap x := by
  unfold wrap
  split
  · exact Int.emod_bmod x k.modulus
  · exact Int.emod_emod_of_dvd x (Int.dvd_refl _)

theorem modulus_pos (k : IntKind) : 0 < k.modulus := by
  rw [modulus, Nat.one_shiftLeft]
  exact Nat.two_pow_pos _

/-- The bytes of a value of the kind spell that value. -/
theorem decode_encode {k : IntKind} {x : Int} (h : k.Holds x) :
    k.decode (k.encode x) = x := by
  have hpos : (0 : Int) < k.modulus := Int.ofNat_lt.mpr k.modulus_pos
  have hnonneg : 0 ≤ x % (k.modulus : Int) :=
    Int.emod_nonneg x (Int.ne_of_gt hpos)
  calc
    k.decode (k.encode x) =
        k.wrap ((x % k.modulus).toNat % k.modulus : Nat) := by
      rw [decode, encode, ofLittleEndian_littleEndian]
      rfl
    _ = k.wrap (x % k.modulus % k.modulus) := by
      rw [Int.natCast_emod, Int.toNat_of_nonneg hnonneg]
    _ = x := by
      rw [wrap_emod, wrap_emod]
      exact h

end IntKind

/-! ## Arrays of integers -/

namespace Value

theorem decodeElements_encode_append {k : IntKind} {xs : List Int}
    (h : ∀ x ∈ xs, k.Holds x) (rest : List UInt8) :
    decodeElements k xs.length (xs.flatMap k.encode ++ rest) = xs := by
  induction xs with
  | nil => rfl
  | cons x xs ih =>
      have hwidth : (k.encode x).length = k.width := k.length_encode x
      obtain ⟨hx, hxs⟩ := List.forall_mem_cons.mp h
      rw [List.flatMap_cons, List.append_assoc, List.length_cons,
        decodeElements, ← hwidth, List.take_left, List.drop_left,
        IntKind.decode_encode hx, ih hxs]

theorem decodeElements_take (k : IntKind) {n m : Nat} (h : n * k.width ≤ m)
    (bytes : List UInt8) :
    decodeElements k n (bytes.take m) = decodeElements k n bytes := by
  induction n generalizing m bytes with
  | zero => rfl
  | succ n ih =>
      rw [Nat.succ_mul] at h
      have hfirst : k.width ≤ m := by omega
      have hrest : n * k.width ≤ m - k.width := by omega
      rw [decodeElements, decodeElements, List.take_take,
        Nat.min_eq_left hfirst, List.drop_take, ih hrest]

theorem ext {v w : Value} (htype : v.type = w.type)
    (helements : v.elements = w.elements) : v = w := by
  cases v
  cases w
  subst htype helements
  rfl

/-- A value is what its own bytes spell, whatever stands behind them. -/
theorem ofBytes_bytes_append (v : Value) (rest : List UInt8) :
    ofBytes v.type (v.bytes ++ rest) = v := by
  refine ext (v := ofBytes v.type (v.bytes ++ rest)) rfl ?_
  change decodeElements v.type.kind v.type.count
    (v.elements.flatMap v.type.kind.encode ++ rest) = v.elements
  rw [← v.length_elements]
  exact decodeElements_encode_append v.holds_of_mem rest

theorem ofBytes_take (t : ValueType) (bytes : List UInt8) :
    ofBytes t (bytes.take t.size) = ofBytes t bytes :=
  ext rfl (decodeElements_take t.kind (Nat.le_refl _) bytes)

end Value

/-- Integers and arrays of them as a plain type. -/
def ValueType.plain (t : ValueType) : PlainType { v : Value // v.type = t } where
  size := t.size
  align := t.align
  encode v := v.val.bytes
  decode bytes := ⟨Value.ofBytes t bytes, rfl⟩
  length_encode := by
    rintro ⟨v, rfl⟩
    exact v.length_bytes
  decode_encode := by
    rintro ⟨v, rfl⟩
    have h := v.ofBytes_bytes_append []
    rw [List.append_nil] at h
    exact Subtype.ext h

end AlignedStorage
