import AlignedStorage.Proofs.Layout.Union

/-!
# Ways to assemble a union

A union can be put together in any order and bracketing, with elements
repeated and fillers put in.  Each join of an assembly pads its own layout
at its own alignment, but answers the common demand of the leaves below it.
-/

namespace AlignedStorage

namespace Layout

/-- A bracketing of pairwise unions.  A leaf is taken as it is, without
padding. -/
inductive Assembly
  | leaf (l : Layout)
  | join (left right : Assembly)

namespace Assembly

/-- The layouts an assembly unites, from left to right. -/
def leaves : Assembly → List Layout
  | leaf l => [l]
  | join left right => left.leaves ++ right.leaves

/-- The outcome of an assembly.  A fault anywhere in it is a fault of the
whole. -/
def outcome : Assembly → Except Fault Layout
  | leaf l => .ok l
  | join left right => do
      let l ← left.outcome
      let m ← right.outcome
      l.unionWith m

/-- A join of two answers is padded to the common demand of its leaves. -/
theorem outcome_join {s t : Assembly}
    (hs : Answers s.outcome (maxSize s.leaves) (maxAlign s.leaves))
    (ht : Answers t.outcome (maxSize t.leaves) (maxAlign t.leaves)) :
    (join s t).outcome = union (join s t).leaves := by
  rw [union_eq_enclose, leaves, maxSize_append, maxAlign_append]
  exact hs.unionWith_eq ht

theorem answers_outcome (t : Assembly) :
    Answers t.outcome (maxSize t.leaves) (maxAlign t.leaves) := by
  induction t with
  | leaf l =>
      have hpos : 1 ≤ l.align := l.align_pos
      simp only [leaves, outcome, maxSize_cons, maxSize_nil, maxAlign_cons,
        maxAlign_nil, Nat.max_zero, Nat.max_eq_left hpos]
      exact .layout l.meets_self
  | join s t hs ht =>
      rw [outcome_join hs ht, union_eq_enclose]
      exact answers_enclose (isPowerOfTwo_maxAlign _)

theorem outcome_eq_union {t : Assembly} (h : 2 ≤ t.leaves.length) :
    t.outcome = union t.leaves := by
  cases t with
  | leaf l => simp [leaves] at h
  | join s t => exact outcome_join s.answers_outcome t.answers_outcome

end Assembly

theorem union_append (xs ys : List Layout) :
    union (xs ++ ys) =
      (do let l ← union xs; let m ← union ys; l.unionWith m) := by
  simp only [union_eq_enclose]
  rw [(answers_enclose (isPowerOfTwo_maxAlign xs)).unionWith_eq
    (answers_enclose (isPowerOfTwo_maxAlign ys)), maxSize_append,
    maxAlign_append]

/-- How a union is put together makes no difference to its outcome, be it a
layout or a fault: neither the order of its elements, nor repetitions and
fillers among them, nor how pairwise unions of them are bracketed. -/
theorem union_independent_of_assembly (ls : List Layout) :
    (∀ ms, Regathered ls ms → union ms = union ls) ∧
    (2 ≤ ls.length →
      ∀ t : Assembly, Regathered ls t.leaves → t.outcome = union ls) ∧
    (∀ ms, union (ls ++ ms) =
      (do let l ← union ls; let m ← union ms; l.unionWith m)) := by
  refine ⟨fun _ h ↦ h.union_eq, ?_, union_append ls⟩
  intro hls t h
  rw [Assembly.outcome_eq_union (Nat.le_trans hls h.length_le), h.union_eq]

/-- The candidates of `nearLimit` with the word taken twice and a filler
between, bracketed to the right. -/
def nearLimitAssembly : Assembly :=
  .join (.leaf word)
    (.join (.leaf filler) (.join (.leaf nineBelowLimit) (.leaf word)))

theorem union_nearLimitAssembly :
    2 ≤ nearLimit.length ∧
      Regathered nearLimit nearLimitAssembly.leaves ∧
      union nearLimitAssembly.leaves = union nearLimit ∧
      nearLimitAssembly.outcome = union nearLimit := by
  have hlength : 2 ≤ nearLimit.length := by decide
  have hmem : word ∈ nearLimit :=
    List.mem_cons_of_mem _ (List.mem_singleton.mpr rfl)
  have hleaves : Regathered nearLimit nearLimitAssembly.leaves :=
    .perm (.fill (.again .same hmem)) (List.Perm.swap _ _ _)
  obtain ⟨hlists, htrees, _⟩ := union_independent_of_assembly nearLimit
  exact ⟨hlength, hleaves, hlists _ hleaves, htrees hlength _ hleaves⟩

end Layout

end AlignedStorage
