import AlignedStorage.Proofs.Grammar.Leaves
import AlignedStorage.Trait.Parser

/-!
# What readers return

A property of all that a reader can return is shown part by part: of what is
read before, of what is returned, and of a repetition by an invariant.  With
it, lists read with separators have one behind every element but the last,
and so have the parameters of a trait.
-/

namespace AlignedStorage

namespace Reader

/-- Whatever a reader returns has a property. -/
def Yields {α : Type} (r : Reader α) (P : α → Prop) : Prop :=
  ∀ place a after, r place = .ok (a, after) → P a

section

variable {α β : Type} {P : α → Prop} {Q : β → Prop}

theorem yields_pure {a : α} (h : P a) : Yields (pure a) P :=
  fun _ ↦ leaves_pure h

theorem Yields.bind {x : Reader α} {f : α → Reader β} (hx : Yields x P)
    (hf : ∀ a, P a → Yields (f a) Q) : Yields (x >>= f) Q :=
  fun place ↦ Leaves.bind (hx place) fun a after ha ↦ hf a ha after

theorem yields_bind (x : Reader α) {f : α → Reader β}
    (hf : ∀ a, Yields (f a) Q) : Yields (x >>= f) Q :=
  fun _ ↦ leaves_bind x hf

theorem yields_repeating {I : α → Prop} {step : α → Reader (α × Bool)}
    (hstep : ∀ a, I a → Yields (step a) fun r ↦ P r.1 ∧ (r.2 → I r.1))
    (hlast : ∀ a, I a → P a) {a : α} (ha : I a) :
    Yields (repeating a step) P :=
  fun _ ↦ leaves_repeating (P := fun a _ ↦ P a) (I := fun a _ ↦ I a)
    (fun a place h ↦ hstep a h place) (fun a _ h ↦ hlast a h) ha

end

end Reader

/-- A list whose elements all have a separator behind them, except perhaps
the last. -/
def Punctuated {α : Type} (xs : List (α × Bool)) : Prop :=
  xs.Pairwise fun x _ ↦ x.2

theorem punctuated_cons_iff {α : Type} {x : α × Bool} {xs : List (α × Bool)} :
    Punctuated (x :: xs) ↔ (xs ≠ [] → x.2) ∧ Punctuated xs := by
  rw [Punctuated, List.pairwise_cons, ← Punctuated, and_congr_left_iff]
  intro _
  constructor
  · intro h hne
    obtain ⟨y, ys, rfl⟩ := List.exists_cons_of_ne_nil hne
    exact h y List.mem_cons_self
  · intro h y hy
    exact h (List.ne_nil_of_mem hy)

section

variable {α : Type} {done : List (α × Bool)} (h : ∀ x ∈ done, x.2)

include h

theorem punctuated_reverse : Punctuated done.reverse := by
  rw [Punctuated, List.pairwise_reverse]
  exact List.pairwise_of_forall_mem_list fun _ _ b hb ↦ h b hb

theorem punctuated_reverse_cons (last : α × Bool) :
    Punctuated (last :: done).reverse := by
  rw [Punctuated, List.reverse_cons, List.pairwise_append]
  refine ⟨punctuated_reverse h, List.pairwise_singleton _ _, ?_⟩
  intro x hx _ _
  exact h x (List.mem_reverse.mp hx)

end

namespace Reader

/-- A list goes on only behind a separator, so all elements before the one
that is read have one. -/
theorem yields_separated {α : Type} (separator : String)
    (stop : List Token → Bool) (part : Reader α) :
    Yields (separated separator stop part) Punctuated := by
  have hstart : ∀ x ∈ ([] : List (α × Bool)), x.2 := nofun
  refine Yields.bind (yields_repeating (I := fun done ↦ ∀ x ∈ done, x.2)
    (P := fun done ↦ Punctuated done.reverse) ?_
    (fun done ↦ punctuated_reverse) hstart) fun done hdone ↦ yields_pure hdone
  intro done hdone
  refine yields_bind _ fun tokens ↦ ?_
  split
  · exact yields_pure ⟨punctuated_reverse hdone, nofun⟩
  · refine yields_bind _ fun a ↦ yields_bind _ fun tokens ↦ ?_
    split
    · exact yields_pure ⟨punctuated_reverse_cons hdone (a, false), nofun⟩
    · refine yields_bind _ fun _ ↦ yields_pure
        ⟨punctuated_reverse_cons hdone (a, true), fun _ ↦ ?_⟩
      exact List.forall_mem_cons.mpr ⟨rfl, hdone⟩

/-- A whole text is read by the reader, and then only looked at for tokens
that are left. -/
theorem of_run_eq_ok {α : Type} {reader : Rules → Reader α} {P : α → Prop}
    (h : ∀ r, Yields (reader r) P) {tokens : List Token} {a : α}
    (hrun : run reader tokens = .ok a) : P a := by
  simp only [run, bind, Except.bind] at hrun
  split at hrun
  · cases hrun
  · rename_i result hread
    have hresult : P result.1 := h _ _ _ result.2 hread
    split at hrun
    · cases hrun
      exact hresult
    · cases hrun
    · cases hrun

end Reader

/-! ## The parameters of a trait -/

open Reader

theorem yields_readGenerics (r : Rules) :
    Yields (readGenerics r) fun g ↦ Punctuated g.params := by
  unfold readGenerics
  refine yields_bind _ fun tokens ↦ ?_
  split
  · refine yields_bind _ fun _ ↦ ?_
    refine Yields.bind (yields_separated _ _ _) fun params hparams ↦ ?_
    exact yields_bind _ fun _ ↦ yields_pure hparams
  · exact yields_pure .nil

theorem yields_readTraitHead (r : Rules) (attributes : List Token) :
    Yields (readTraitHead r attributes) fun head ↦
      Punctuated head.generics.params := by
  refine yields_bind _ fun _ ↦ yields_bind _ fun _ ↦ yields_bind _ fun _ ↦
    yields_bind _ fun _ ↦ yields_bind _ fun _ ↦ ?_
  exact Yields.bind (yields_readGenerics r) fun g hg ↦ yields_pure hg

theorem yields_readAttributedTrait (r : Rules) :
    Yields (readAttributedTrait r) fun t ↦ Punctuated t.generics.params := by
  refine yields_bind _ fun attributes ↦ ?_
  refine Yields.bind (yields_readTraitHead r attributes) fun head hhead ↦ ?_
  refine yields_bind _ fun _ ↦ yields_bind _ fun _ ↦ yields_bind _ fun _ ↦ ?_
  exact yields_pure hhead

theorem TraitItem.punctuated_of_parse {item : List Token} {t : TraitItem}
    (h : parse item = .ok t) : Punctuated t.generics.params :=
  of_run_eq_ok yields_readAttributedTrait h

end AlignedStorage
