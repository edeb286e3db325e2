import AlignedStorage.Alignment

/-!
# Addresses

An address is a machine word.  Rounding works on its bits: the alignment
less one is a mask of the bits that have to be zero.  Sums and differences
that leave the word range are faults, never wrapped.  `Address.run` carries
an address through a list of steps; a step that faults leaves it alone.
-/

namespace AlignedStorage

/-- A position in memory. -/
structure Address where
  word : UInt64
deriving DecidableEq, Repr

namespace Address

def zero : Address :=
  ⟨0⟩

def logBytes : Nat := 3

def bytes : Nat := 1 <<< logBytes

def toNat (a : Address) : Nat :=
  a.word.toNat

def isZero (a : Address) : Bool :=
  a.word == 0

def addWords (x y : UInt64) : Except Fault UInt64 :=
  if x.toNat + y.toNat < UInt64.size then .ok (x + y) else .error .addOverflow

def subWords (x y : UInt64) : Except Fault UInt64 :=
  if y ≤ x then .ok (x - y) else .error .subOverflow

def maskOf (align : UInt64) : Except Fault UInt64 :=
  if align.toNat.isPowerOfTwo then .ok (align - 1)
  else .error .notPowerOfTwo

def add (a : Address) (n : UInt64) : Except Fault Address := do
  return ⟨← addWords a.word n⟩

def sub (a : Address) (n : UInt64) : Except Fault Address := do
  return ⟨← subWords a.word n⟩

def offsetFrom (a b : Address) : Except Fault UInt64 :=
  if b.word ≤ a.word then .ok (a.word - b.word) else .error .minuendBelow

/-- The next address from here on that has the alignment.  The sum with the
mask comes first, so that it may fault. -/
def alignUp (a : Address) (align : UInt64) : Except Fault Address := do
  let mask ← maskOf align
  let sum ← addWords a.word mask
  return ⟨sum &&& ~~~mask⟩

def alignDown (a : Address) (align : UInt64) : Except Fault Address := do
  let mask ← maskOf align
  return ⟨a.word &&& ~~~mask⟩

def isAlignedTo (a : Address) (align : UInt64) : Except Fault Bool := do
  let mask ← maskOf align
  return a.word &&& mask == 0

def trailingZeros (n : Nat) : Nat :=
  if n = 0 ∨ n % 2 = 1 then 0 else trailingZeros (n / 2) + 1

/-- The strictest alignment an address has; the zero address has all of
them, so none is the strictest. -/
def naturalAlignment (a : Address) : Option Alignment :=
  if a.isZero then none
  else some ⟨1 <<< trailingZeros a.toNat, trailingZeros a.toNat,
    Nat.one_shiftLeft _⟩

/-- An address is shown in hexadecimal, whatever width is asked for. -/
def text (a : Address) : String :=
  hexadecimal a.toNat

/-- One operation on an address. -/
inductive Step
  | add (n : UInt64)
  | sub (n : UInt64)
  | offsetFrom (other : Address)
  | addAssign (n : UInt64)
  | subAssign (n : UInt64)
  | alignUp (align : UInt64)
  | alignDown (align : UInt64)
  | isAlignedTo (align : UInt64)
  | alignUpAssign (align : UInt64)
  | alignDownAssign (align : UInt64)
  | compare (other : Address)
  | naturalAlignment
  | isZero
  | text
deriving DecidableEq, Repr

/-- What an operation on an address yields. -/
inductive Reading
  | none
  | address (a : Address)
  | distance (n : UInt64)
  | truth (b : Bool)
  | order (o : Ordering)
  | alignment (a : Option Alignment)
  | text (s : String)
deriving DecidableEq

/-- Carries out one operation: the address afterwards and what the operation
yields.  Only the assigning steps change the address. -/
def step (a : Address) : Step → Except Fault (Address × Reading)
  | .add n => do return (a, .address (← a.add n))
  | .sub n => do return (a, .address (← a.sub n))
  | .offsetFrom b => do return (a, .distance (← a.offsetFrom b))
  | .addAssign n => do return (← a.add n, .none)
  | .subAssign n => do return (← a.sub n, .none)
  | .alignUp n => do return (a, .address (← a.alignUp n))
  | .alignDown n => do return (a, .address (← a.alignDown n))
  | .isAlignedTo n => do return (a, .truth (← a.isAlignedTo n))
  | .alignUpAssign n => do return (← a.alignUp n, .none)
  | .alignDownAssign n => do return (← a.alignDown n, .none)
  | .compare b => .ok (a, .order (Ord.compare a.toNat b.toNat))
  | .naturalAlignment => .ok (a, .alignment a.naturalAlignment)
  | .isZero => .ok (a, .truth a.isZero)
  | .text => .ok (a, .text a.text)

/-- The address after a step; a fault leaves it as it was. -/
def next (a : Address) (s : Step) : Address :=
  match a.step s with
  | .ok (b, _) => b
  | .error _ => a

def after (a : Address) (steps : List Step) : Address :=
  steps.foldl next a

/-- The address after each step of a list, with what the step yields. -/
def run (a : Address) : List Step → List (Address × Except Fault Reading)
  | [] => []
  | s :: rest =>
      (a.next s, (a.step s).map Prod.snd) :: (a.next s).run rest

end Address

end AlignedStorage
