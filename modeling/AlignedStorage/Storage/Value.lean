import AlignedStorage.Numeral

/-!
# Plain values

Fixed-width integers and short arrays of them, with the bytes they occupy:
little endian, elements in order, no padding.
-/

namespace AlignedStorage

/-- The bytes of a number, least significant first, cut to a width. -/
def littleEndian : Nat → Nat → List UInt8
  | 0, _ => []
  | width + 1, n => UInt8.ofNat n :: littleEndian width (n / 256)

/-- The number that bytes spell, least significant first. -/
def ofLittleEndian : List UInt8 → Nat
  | [] => 0
  | b :: rest => b.toNat + 256 * ofLittleEndian rest

/-- A kind of fixed-width integer of one, two, four, eight or sixteen
bytes. -/
structure IntKind where
  signed : Bool
  logWidth : Fin 5
deriving DecidableEq, Repr

namespace IntKind

def width (k : IntKind) : Nat :=
  1 <<< k.logWidth.val

def modulus (k : IntKind) : Nat :=
  1 <<< (8 * k.width)

/-- The value an integer wraps around to. -/
def wrap (k : IntKind) (x : Int) : Int :=
  if k.signed then Int.bmod x k.modulus else x % k.modulus

/-- An integer is a value of the kind when it need not wrap. -/
def Holds (k : IntKind) (x : Int) : Prop :=
  k.wrap x = x

instance (k : IntKind) (x : Int) : Decidable (k.Holds x) :=
  inferInstanceAs (Decidable (_ = _))

def encode (k : IntKind) (x : Int) : List UInt8 :=
  littleEndian k.width (x % k.modulus).toNat

def decode (k : IntKind) (bytes : List UInt8) : Int :=
  k.wrap (ofLittleEndian bytes)

theorem length_littleEndian (width n : Nat) :
    (littleEndian width n).length = width := by
  induction width generalizing n with
  | zero => rfl
  | succ width ih => simp [littleEndian, ih]

theorem length_encode (k : IntKind) (x : Int) :
    (k.encode x).length = k.width :=
  length_littleEndian _ _

theorem wrap_wrap (k : IntKind) (x : Int) : k.wrap (k.wrap x) = k.wrap x := by
  unfold wrap
  split
  · exact Int.bmod_bmod
  · exact Int.emod_emod_of_dvd x (Int.dvd_refl _)

end IntKind

/-- The type of a plain value: one integer, or an array of some. -/
inductive ValueType
  | int (kind : IntKind)
  | array (kind : IntKind) (count : Nat)
deriving DecidableEq, Repr

namespace ValueType

def kind : ValueType → IntKind
  | .int k => k
  | .array k _ => k

def count : ValueType → Nat
  | .int _ => 1
  | .array _ n => n

def size (t : ValueType) : Nat :=
  t.count * t.kind.width

def align (t : ValueType) : Nat :=
  t.kind.width

end ValueType

/-- A value of a plain type. -/
structure Value where
  type : ValueType
  elements : List Int
  length_elements : elements.length = type.count
  holds_of_mem : ∀ x ∈ elements, type.kind.Holds x
deriving DecidableEq

namespace Value

/-- The value with the given elements, if they are of the type. -/
def ofElements? (type : ValueType) (elements : List Int) : Option Value :=
  if h : elements.length = type.count ∧
      ∀ x ∈ elements, type.kind.Holds x then
    some ⟨type, elements, h.1, h.2⟩
  else none

def bytes (v : Value) : List UInt8 :=
  v.elements.flatMap v.type.kind.encode

theorem length_flatMap_encode (k : IntKind) (xs : List Int) :
    (xs.flatMap k.encode).length = xs.length * k.width := by
  induction xs with
  | nil => simp
  | cons x xs ih =>
      simp [ih, IntKind.length_encode, Nat.add_mul, Nat.add_comm]

theorem length_bytes (v : Value) : v.bytes.length = v.type.size := by
  rw [bytes, length_flatMap_encode, v.length_elements]
  rfl

def decodeElements (k : IntKind) : Nat → List UInt8 → List Int
  | 0, _ => []
  | n + 1, bytes =>
      k.decode (bytes.take k.width) ::
        decodeElements k n (bytes.drop k.width)

theorem length_decodeElements (k : IntKind) (n : Nat)
    (bytes : List UInt8) : (decodeElements k n bytes).length = n := by
  induction n generalizing bytes with
  | zero => rfl
  | succ n ih => simp [decodeElements, ih]

theorem holds_decodeElements (k : IntKind) (n : Nat) (bytes : List UInt8) :
    ∀ x ∈ decodeElements k n bytes, k.Holds x := by
  induction n generalizing bytes with
  | zero => simp [decodeElements]
  | succ n ih =>
      simp only [decodeElements, List.mem_cons, forall_eq_or_imp]
      exact ⟨k.wrap_wrap _, ih _⟩

def ofBytes (type : ValueType) (bytes : List UInt8) : Value where
  type := type
  elements := decodeElements type.kind type.count bytes
  length_elements := length_decodeElements _ _ _
  holds_of_mem := holds_decodeElements _ _ _

/-- The value with one added to each element, wrapping around. -/
def bump (v : Value) : Value where
  type := v.type
  elements := v.elements.map fun x ↦ v.type.kind.wrap (x + 1)
  length_elements := by simp [v.length_elements]
  holds_of_mem := by
    simp only [List.mem_map, forall_exists_index, and_imp,
      forall_apply_eq_imp_iff₂]
    exact fun x _ ↦ IntKind.wrap_wrap _ _

end Value

end AlignedStorage
