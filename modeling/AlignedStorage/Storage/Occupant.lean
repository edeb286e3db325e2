import AlignedStorage.Storage.Shape

/-!
# Occupants

Values with a destructor are placed in storage by hand.  `Tenancy` follows
what a storage value holds, which tracked values have been dropped, and how
many handles on the shared log are still out.  Writing over an occupant
leaks it, and dropping the storage drops nothing in it.
-/

namespace AlignedStorage

/-- A value that owns something beyond its own bytes. -/
inductive Occupant
  | text (s : String)
  | bytes (bs : List UInt8)
  | boxed (n : UInt64)
  /-- A number that is noted in a shared log when dropped. -/
  | tracked (id : UInt64)
deriving DecidableEq, Repr

inductive OccupantKind
  | text
  | bytes
  | boxed
  | tracked
deriving DecidableEq, Repr

namespace OccupantKind

def size : OccupantKind → Nat
  | .text => 24
  | .bytes => 24
  | .boxed => 8
  | .tracked => 16

def align (_ : OccupantKind) : Nat := 8

end OccupantKind

namespace Occupant

def kind : Occupant → OccupantKind
  | .text _ => .text
  | .bytes _ => .bytes
  | .boxed _ => .boxed
  | .tracked _ => .tracked

/-- An occupant with another of its kind added to it: text and bytes are
appended, numbers added with wraparound. -/
def append : Occupant → Occupant → Occupant
  | .text s, .text t => .text (s ++ t)
  | .bytes s, .bytes t => .bytes (s ++ t)
  | .boxed m, .boxed n => .boxed (m + n)
  | .tracked m, .tracked n => .tracked (m + n)
  | o, _ => o

def handles : Occupant → Nat
  | .tracked _ => 1
  | _ => 0

/-- What dropping an occupant notes in the shared log. -/
def dropNote : Occupant → List UInt64
  | .tracked id => [id]
  | _ => []

end Occupant

/-- The occupant of a storage value, if it has one, and the shared log. -/
structure Tenancy where
  occupant : Option Occupant
  /-- The numbers of the tracked values dropped so far, in order. -/
  drops : List UInt64
  /-- The handles on the shared log: one of its own, and one for each tracked
  value not yet dropped. -/
  handles : Nat
deriving DecidableEq, Repr

namespace Tenancy

def vacant : Tenancy where
  occupant := none
  drops := []
  handles := 1

def occupantOf (t : Tenancy) (k : OccupantKind) : Option Occupant :=
  t.occupant.filter fun o ↦ o.kind = k

/-- Places an occupant.  One that was there before is never dropped. -/
def place (t : Tenancy) (o : Occupant) : Tenancy :=
  { t with
    occupant := some o
    handles := t.handles + o.handles }

/-- Drops the occupant, which leaves the storage vacant. -/
def dropOccupant (t : Tenancy) (o : Occupant) : Tenancy :=
  { occupant := none
    drops := t.drops ++ o.dropNote
    handles := t.handles - o.handles }

/-- One operation on the occupant of storage. -/
inductive Step
  | write (o : Occupant)
  | borrow (k : OccupantKind)
  | append (o : Occupant)
  /-- Moves the occupant out and then drops it. -/
  | read (k : OccupantKind)
  | dropInPlace (k : OccupantKind)
deriving DecidableEq, Repr

inductive Refusal
  | misfit (m : Misfit)
  /-- The storage has no occupant of the kind. -/
  | notLive
deriving DecidableEq, Repr

/-- Carries out one operation in storage of a layout: the tenancy afterwards
and the occupant the operation shows. -/
def step (layout : Layout) (t : Tenancy) :
    Step → Except Refusal (Tenancy × Option Occupant)
  | .write o =>
      match fit o.kind.size o.kind.align layout with
      | .ok () => .ok (t.place o, some o)
      | .error e => .error (.misfit e)
  | .borrow k =>
      match t.occupantOf k with
      | some o => .ok (t, some o)
      | none => .error .notLive
  | .append o =>
      match t.occupantOf o.kind with
      | some old => .ok ({ t with occupant := some (old.append o) }, none)
      | none => .error .notLive
  | .read k =>
      match t.occupantOf k with
      | some o => .ok (t.dropOccupant o, some o)
      | none => .error .notLive
  | .dropInPlace k =>
      match t.occupantOf k with
      | some o => .ok (t.dropOccupant o, none)
      | none => .error .notLive

/-- The tenancy after an operation; a refused one leaves it as it was. -/
def next (layout : Layout) (t : Tenancy) (step : Step) : Tenancy :=
  match t.step layout step with
  | .ok (t', _) => t'
  | .error _ => t

/-- The tenancy after each operation of a list, with what it shows. -/
def run (layout : Layout) (t : Tenancy) :
    List Step → List (Tenancy × Except Refusal (Option Occupant))
  | [] => []
  | s :: rest =>
      (t.next layout s, (t.step layout s).map Prod.snd) ::
        (t.next layout s).run layout rest

def after (layout : Layout) (t : Tenancy) (steps : List Step) : Tenancy :=
  steps.foldl (next layout) t

/-- Dropping the storage leaves the shared log alone, even when an occupant
is still in it. -/
def dropStorage (t : Tenancy) : Tenancy :=
  { t with occupant := none }

end Tenancy

end AlignedStorage
