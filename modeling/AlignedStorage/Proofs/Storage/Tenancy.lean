import AlignedStorage.Storage.Occupant

/-!
# Handles and drops

A tracked value takes a handle on the shared log when it is placed, and gives it
back when it is dropped.  So the handles that are out and the drops noted always
account for the values placed, and what was written over or left in dropped
storage keeps its handle for good.
-/

namespace AlignedStorage

namespace Occupant

theorem length_dropNote (o : Occupant) : o.dropNote.length = o.handles := by
  cases o <;> rfl

theorem handles_append (old o : Occupant) :
    (old.append o).handles = old.handles := by
  cases old <;> cases o <;> rfl

end Occupant

namespace Tenancy

/-- The tracked values that an operation places in storage of a layout. -/
def Step.placed (layout : Layout) : Step → List UInt64
  | .write o =>
      match fit o.kind.size o.kind.align layout with
      | .ok () => o.dropNote
      | .error _ => []
  | _ => []

/-- The tracked values that a list of operations places, in order. -/
def placedBy (layout : Layout) (steps : List Step) : List UInt64 :=
  steps.flatMap (Step.placed layout)

/-- The handles that the occupant holds. -/
def live (t : Tenancy) : Nat :=
  t.occupant.elim 0 Occupant.handles

/-- What dropping the occupant would note. -/
def pending (t : Tenancy) : List UInt64 :=
  t.occupant.elim [] Occupant.dropNote

section

variable {layout : Layout} {t t' : Tenancy} {s : Step}
  {placed new : List UInt64} {steps : List Step}

/-! ## One operation -/

/-- What an operation does, with the tracked values that it places.  One that
shows the occupant, and one that is refused, keep the tenancy. -/
inductive Moves (t : Tenancy) : Step → List UInt64 → Tenancy → Prop
  | kept (s : Step) : Moves t s [] t
  | placed (o : Occupant) : Moves t (.write o) o.dropNote (t.place o)
  | changed (old o : Occupant) (hold : t.occupant = some old)
      (hkind : old.kind = o.kind) :
      Moves t (.append o) [] { t with occupant := some (old.append o) }
  | dropped (s : Step) (o : Occupant) (ho : t.occupant = some o)
      (hs : s = .read o.kind ∨ s = .dropInPlace o.kind) :
      Moves t s [] (t.dropOccupant o)

theorem occupantOf_eq_some_iff {k : OccupantKind} {o : Occupant} :
    t.occupantOf k = some o ↔ t.occupant = some o ∧ o.kind = k := by
  simp [occupantOf, Option.filter_eq_some_iff]

theorem moves_next (layout : Layout) (t : Tenancy) (s : Step) :
    Moves t s (s.placed layout) (t.next layout s) := by
  cases s with
  | write o =>
      simp only [next, step, Step.placed]
      cases fit o.kind.size o.kind.align layout with
      | ok u => exact .placed o
      | error e => exact .kept _
  | borrow k =>
      simp only [next, step, Step.placed]
      cases t.occupantOf k with
      | none => exact .kept _
      | some o => exact .kept _
  | append o =>
      simp only [next, step, Step.placed]
      cases h : t.occupantOf o.kind with
      | none => exact .kept _
      | some old =>
          obtain ⟨hold, hkind⟩ := occupantOf_eq_some_iff.mp h
          exact .changed old o hold hkind
  | read k =>
      simp only [next, step, Step.placed]
      cases h : t.occupantOf k with
      | none => exact .kept _
      | some o =>
          obtain ⟨ho, rfl⟩ := occupantOf_eq_some_iff.mp h
          exact .dropped _ o ho (.inl rfl)
  | dropInPlace k =>
      simp only [next, step, Step.placed]
      cases h : t.occupantOf k with
      | none => exact .kept _
      | some o =>
          obtain ⟨ho, rfl⟩ := occupantOf_eq_some_iff.mp h
          exact .dropped _ o ho (.inr rfl)

/-- Drops are never taken back. -/
theorem Moves.prefix_drops (h : Moves t s new t') : t.drops <+: t'.drops := by
  cases h with
  | kept => exact List.prefix_rfl
  | placed o => exact List.prefix_rfl
  | changed old o hold hkind => exact List.prefix_rfl
  | dropped s o ho hs => exact List.prefix_append t.drops o.dropNote

/-! ## Handles -/

/-- The handles and the drops of a tenancy account for the tracked values
placed: each has given its handle back with a drop or holds it still.  No
occupant was dropped before. -/
structure Accounts (placed : List UInt64) (t : Tenancy) : Prop where
  handles_eq : t.handles + t.drops.length = 1 + placed.length
  le_placed : t.drops.length + t.live ≤ placed.length

theorem Accounts.moves (h : Accounts placed t) (hmoves : Moves t s new t') :
    Accounts (placed ++ new) t' := by
  obtain ⟨hhandles, hle⟩ := h
  cases hmoves with
  | kept => exact ⟨by simpa using hhandles, by simpa using hle⟩
  | placed o =>
      have hlive : (t.place o).live = o.handles := rfl
      have hnote := o.length_dropNote
      constructor
      · simp only [place, List.length_append]
        omega
      · rw [hlive, List.length_append]
        simp only [place]
        omega
  | changed old o hold hkind =>
      have hlive : t.live = old.handles := by rw [live, hold, Option.elim_some]
      have hkept := old.handles_append o
      refine ⟨by simpa using hhandles, ?_⟩
      simp only [live, Option.elim_some, List.append_nil]
      omega
  | dropped s o ho hs =>
      -- The handle given back is still out, as the occupant was not dropped
      -- before.
      have hlive : t.live = o.handles := by rw [live, ho, Option.elim_some]
      have hnote := o.length_dropNote
      constructor
      · simp only [dropOccupant, List.length_append, List.length_nil]
        omega
      · simp only [dropOccupant, live, Option.elim_none, List.length_append,
          List.length_nil]
        omega

theorem accounts_vacant : Accounts [] vacant :=
  ⟨rfl, Nat.le_refl 0⟩

theorem Accounts.after (h : Accounts placed t) (layout : Layout)
    (steps : List Step) :
    Accounts (placed ++ placedBy layout steps) (t.after layout steps) := by
  induction steps generalizing placed t with
  | nil =>
      rw [placedBy, List.flatMap_nil, List.append_nil]
      exact h
  | cons s steps ih =>
      have hrest := ih (h.moves (moves_next layout t s))
      rw [List.append_assoc] at hrest
      exact hrest

/-- After any run from vacant storage each tracked value placed has been dropped
or holds its handle still, and no more were dropped than placed.  Dropping the
storage gives no handle back: all are back just if each value was dropped. -/
theorem handles_after_vacant (layout : Layout) (steps : List Step) :
    ((vacant.after layout steps).handles +
        (vacant.after layout steps).drops.length =
      1 + (placedBy layout steps).length) ∧
    (vacant.after layout steps).drops.length +
        (vacant.after layout steps).live ≤ (placedBy layout steps).length ∧
    ((vacant.after layout steps).dropStorage.handles = 1 ↔
      (vacant.after layout steps).drops.length =
        (placedBy layout steps).length) := by
  have h : Accounts (placedBy layout steps) (vacant.after layout steps) :=
    accounts_vacant.after layout steps
  refine ⟨h.handles_eq, h.le_placed, ?_⟩
  have hhandles := h.handles_eq
  simp only [dropStorage]
  omega

/-! ## Drops -/

theorem prefix_drops_after (layout : Layout) (t : Tenancy)
    (steps : List Step) : t.drops <+: (t.after layout steps).drops := by
  induction steps generalizing t with
  | nil => exact List.prefix_rfl
  | cons s steps ih => exact (moves_next layout t s).prefix_drops.trans (ih _)

/-- An operation that does not change the value of a tracked occupant. -/
def Step.KeepsTracked (s : Step) : Prop :=
  ∀ id, s ≠ .append (.tracked id)

theorem Moves.sublist (hmoves : Moves t s new t') (hkeeps : s.KeepsTracked)
    (h : List.Sublist (t.drops ++ t.pending) placed) :
    List.Sublist (t'.drops ++ t'.pending) (placed ++ new) := by
  cases hmoves with
  | kept =>
      rw [List.append_nil]
      exact h
  | placed o =>
      -- What was there before is written over, and its note never comes.
      have hdrops : List.Sublist t.drops placed :=
        (List.sublist_append_left t.drops t.pending).trans h
      exact hdrops.append (List.Sublist.refl o.dropNote)
  | changed old o hold hkind =>
      have hnote : (old.append o).dropNote = old.dropNote := by
        cases old <;> cases o <;> first | rfl | exact absurd rfl (hkeeps _)
      have hpending : t.pending = old.dropNote := by
        rw [pending, hold, Option.elim_some]
      rw [List.append_nil, pending, Option.elim_some, hnote, ← hpending]
      exact h
  | dropped s o ho hs =>
      have hpending : t.pending = o.dropNote := by
        rw [pending, ho, Option.elim_some]
      rw [List.append_nil, pending, dropOccupant, Option.elim_none,
        List.append_nil, ← hpending]
      exact h

theorem sublist_after (layout : Layout) (hsteps : ∀ s ∈ steps, s.KeepsTracked)
    (h : List.Sublist (t.drops ++ t.pending) placed) :
    List.Sublist
      ((t.after layout steps).drops ++ (t.after layout steps).pending)
      (placed ++ placedBy layout steps) := by
  induction steps generalizing t placed with
  | nil =>
      rw [placedBy, List.flatMap_nil, List.append_nil]
      exact h
  | cons s steps ih =>
      obtain ⟨hs, hrest⟩ := List.forall_mem_cons.mp hsteps
      have hafter := ih hrest ((moves_next layout t s).sublist hs h)
      rw [List.append_assoc] at hafter
      exact hafter

/-- As long as no tracked value is changed, those dropped are among those
placed, in the same order, and none is dropped twice. -/
theorem drops_after_sublist (layout : Layout)
    (hsteps : ∀ s ∈ steps, s.KeepsTracked) :
    List.Sublist (vacant.after layout steps).drops
      (placedBy layout steps) := by
  have hstart : List.Sublist (vacant.drops ++ vacant.pending) [] := .slnil
  exact (List.sublist_append_left _ _).trans
    (sublist_after layout hsteps hstart)

/-! ## Runs -/

/-- A run shows the tenancy after each of its operations. -/
theorem getElem?_run (layout : Layout) (t : Tenancy) (steps : List Step)
    (i : Nat) :
    (t.run layout steps)[i]? = steps[i]?.map fun s ↦
      (t.after layout (steps.take (i + 1)),
        ((t.after layout (steps.take i)).step layout s).map Prod.snd) := by
  induction steps generalizing t i with
  | nil => rfl
  | cons s steps ih =>
      cases i with
      | zero => rfl
      | succ i => exact ih (t.next layout s) i

/-- The account holds at each place of a run. -/
theorem accounts_of_mem_run {steps : List Step} {i : Nat} {t : Tenancy}
    {shown : Except Refusal (Option Occupant)}
    (h : (vacant.run layout steps)[i]? = some (t, shown)) :
    Accounts (placedBy layout (steps.take (i + 1))) t := by
  rw [getElem?_run] at h
  obtain ⟨s, _, hs⟩ := Option.map_eq_some_iff.mp h
  cases hs
  exact accounts_vacant.after layout (steps.take (i + 1))

end

end Tenancy

end AlignedStorage
