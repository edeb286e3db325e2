import AlignedStorage.Storage.Shape
import AlignedStorage.Storage.Value

/-!
# Storage values

A storage value is nothing but its bytes, padding included.  Values are
written and read at offset zero; single bytes can be set through the slice
of an array, and any byte through a pointer.  The storage does not know what
lives in it.
-/

namespace AlignedStorage

def splice (bytes : List UInt8) (offset : Nat) (new : List UInt8) :
    List UInt8 :=
  bytes.take offset ++ new ++ bytes.drop (offset + new.length)

theorem length_splice {bytes new : List UInt8} {offset : Nat}
    (h : offset + new.length ≤ bytes.length) :
    (splice bytes offset new).length = bytes.length := by
  simp only [splice, List.length_append, List.length_take, List.length_drop]
  omega

/-- A storage value: the bytes of one object of a storage type. -/
structure Storage where
  shape : Shape
  layout : Layout
  layout_eq : shape.layout? = some layout
  bytes : List UInt8
  length_bytes : bytes.length = layout.size

namespace Storage

/-- Storage of a given type with every byte set to one value, as left by
whoever had the memory before. -/
def filled? (shape : Shape) (fill : UInt8) : Option Storage :=
  match h : shape.layout? with
  | none => none
  | some layout =>
      some ⟨shape, layout, h, List.replicate layout.size fill, by simp⟩

/-- Storage whose declared bytes are zero; its padding is as before. -/
def zeroed? (shape : Shape) (fill : UInt8) : Option Storage :=
  match h : shape.layout? with
  | none => none
  | some layout =>
      let zeros := min (shape.declaredSize layout) layout.size
      some ⟨shape, layout, h,
        List.replicate zeros 0 ++ List.replicate (layout.size - zeros) fill,
        by simp only [List.length_append, List.length_replicate]; omega⟩

def slice? (s : Storage) : Option (List UInt8) :=
  s.shape.sliceLength?.map s.bytes.take

def overwrite (s : Storage) (offset : Nat) (new : List UInt8)
    (h : offset + new.length ≤ s.layout.size) : Storage where
  shape := s.shape
  layout := s.layout
  layout_eq := s.layout_eq
  bytes := splice s.bytes offset new
  length_bytes := by
    rw [length_splice (by rw [s.length_bytes]; exact h), s.length_bytes]

def write (s : Storage) (v : Value) : Except Misfit Storage :=
  match h : fit v.type.size v.type.align s.layout with
  | .error e => .error e
  | .ok () =>
      .ok (s.overwrite 0 v.bytes (by
        have hsize := (fit_eq_ok_iff.mp h).1
        rw [v.length_bytes]
        omega))

def read (s : Storage) (t : ValueType) : Except Misfit Value :=
  match fit t.size t.align s.layout with
  | .error e => .error e
  | .ok () => .ok (Value.ofBytes t s.bytes)

def bump (s : Storage) (t : ValueType) : Except Misfit (Storage × Value) := do
  let v ← s.read t
  return (← s.write v.bump, v.bump)

/-- Sets one byte through the pointer to the storage; offsets past its end
have no byte to set. -/
def poke (s : Storage) (offset : Nat) (b : UInt8) : Storage where
  shape := s.shape
  layout := s.layout
  layout_eq := s.layout_eq
  bytes := s.bytes.set offset b
  length_bytes := by rw [List.length_set, s.length_bytes]

/-- One operation on storage. -/
inductive Step
  | write (v : Value)
  | writeBump (v : Value)
  | borrow (t : ValueType)
  | read (t : ValueType)
  | bump (t : ValueType)
  | dropInPlace (t : ValueType)
  | setByte (index : Nat) (b : UInt8)
  | sliceLength

/-- Why an operation on storage is refused. -/
inductive Refusal
  | misfit (m : Misfit)
  | fault (f : Fault)
  /-- The storage type offers no slice of its bytes. -/
  | noSlice
deriving DecidableEq, Repr

def setByte (s : Storage) (index : Nat) (b : UInt8) :
    Except Refusal Storage :=
  match s.shape.sliceLength? with
  | none => .error .noSlice
  | some length =>
      if index < length then .ok (s.poke index b)
      else .error (.fault (.indexOutOfBounds length index))

/-- What an operation on storage yields. -/
inductive Reading
  | none
  | value (v : Value)
  | length (n : Nat)
deriving DecidableEq

/-- Carries out one operation: the storage afterwards and what the operation
yields.  Plain values have no destructor, so dropping one does nothing. -/
def step (s : Storage) : Step → Except Refusal (Storage × Reading)
  | .write v =>
      match s.write v with
      | .ok s' => .ok (s', .value v)
      | .error e => .error (.misfit e)
  | .writeBump v =>
      match s.write v with
      | .error e => .error (.misfit e)
      | .ok s' =>
          match s'.bump v.type with
          | .ok (s'', w) => .ok (s'', .value w)
          | .error e => .error (.misfit e)
  | .borrow t =>
      match s.read t with
      | .ok v => .ok (s, .value v)
      | .error e => .error (.misfit e)
  | .read t =>
      match s.read t with
      | .ok v => .ok (s, .value v)
      | .error e => .error (.misfit e)
  | .bump t =>
      match s.bump t with
      | .ok (s', v) => .ok (s', .value v)
      | .error e => .error (.misfit e)
  | .dropInPlace t =>
      match fit t.size t.align s.layout with
      | .ok () => .ok (s, .none)
      | .error e => .error (.misfit e)
  | .setByte index b =>
      match s.setByte index b with
      | .ok s' => .ok (s', .none)
      | .error e => .error e
  | .sliceLength =>
      match s.shape.sliceLength? with
      | none => .error .noSlice
      | some length => .ok (s, .length length)

/-- The storage after an operation; a refused one leaves it as it was. -/
def next (s : Storage) (step : Step) : Storage :=
  match s.step step with
  | .ok (s', _) => s'
  | .error _ => s

/-- The storage after each operation of a list, with what the operation
yields. -/
def run (s : Storage) : List Step → List (Storage × Except Refusal Reading)
  | [] => []
  | t :: rest =>
      (s.next t, (s.step t).map Prod.snd) :: (s.next t).run rest

end Storage

end AlignedStorage
