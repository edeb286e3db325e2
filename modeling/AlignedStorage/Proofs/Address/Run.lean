import AlignedStorage.Proofs.Address.Rounding

/-!
# Runs of steps on an address

An assigning step computes with unbounded integers: either its result is a
word and the address afterwards, or the step is refused and the address stays
as it was.  So a run ends where it would end without the steps that are
refused or only look, and without rounding it moves the address by what its
additions add less what its subtractions take away.
-/

namespace AlignedStorage

namespace Address

namespace Step

/-! What a step is there for.  Only the assigning ones can change an
address. -/

def assigns : Step → Bool
  | .addAssign _ | .subAssign _ | .alignUpAssign _ | .alignDownAssign _ => true
  | _ => false

def rounds : Step → Bool
  | .alignUpAssign _ | .alignDownAssign _ => true
  | _ => false

def added : Step → Nat
  | .addAssign n => n.toNat
  | _ => 0

def removed : Step → Nat
  | .subAssign n => n.toNat
  | _ => 0

end Step

/-- Where an assigning step carries an address, if integers have no bounds. -/
inductive Carries (x : Nat) : Step → Int → Prop
  | sum (n : UInt64) : Carries x (.addAssign n) (x + n.toNat)
  | difference (n : UInt64) : Carries x (.subAssign n) (x - n.toNat)
  | up {n : UInt64} {m : Nat} (hn : n.toNat.isPowerOfTwo)
      (hm : IsLeastMultiple n.toNat x m) : Carries x (.alignUpAssign n) m
  | down {n : UInt64} {m : Nat} (hn : n.toNat.isPowerOfTwo)
      (hm : IsGreatestMultiple n.toNat x m) : Carries x (.alignDownAssign n) m

/-- Why an assigning step is refused. -/
inductive Refuses (x : Nat) : Step → Fault → Prop
  | above {s : Step} {m : Int} (h : Carries x s m) (hm : UInt64.size ≤ m) :
      Refuses x s .addOverflow
  | below {s : Step} {m : Int} (h : Carries x s m) (hm : m < 0) :
      Refuses x s .subOverflow
  | up {n : UInt64} (hn : ¬ n.toNat.isPowerOfTwo) :
      Refuses x (.alignUpAssign n) .notPowerOfTwo
  | down {n : UInt64} (hn : ¬ n.toNat.isPowerOfTwo) :
      Refuses x (.alignDownAssign n) .notPowerOfTwo

/-- How an assigning step ends. -/
inductive Ends (x : Address) (s : Step) :
    Except Fault (Address × Reading) → Prop
  | value {y : Address} (h : Carries x.toNat s y.toNat) :
      Ends x s (.ok (y, .none))
  | fault {f : Fault} (h : Refuses x.toNat s f) : Ends x s (.error f)

section

variable {x : Nat} {s : Step} {m : Int}

theorem Carries.assigns (h : Carries x s m) : s.assigns = true := by
  cases h <;> rfl

theorem Carries.unique {k : Int} (h : Carries x s m) (h' : Carries x s k) :
    m = k := by
  cases h with
  | sum n =>
      cases h'
      rfl
  | difference n =>
      cases h'
      rfl
  | up hn hm =>
      cases h' with
      | up _ hk =>
          have hpos := Nat.pos_of_isPowerOfTwo hn
          rw [(isLeastMultiple_iff hpos).mp hm,
            (isLeastMultiple_iff hpos).mp hk]
  | down hn hm =>
      cases h' with
      | down _ hk =>
          rw [isGreatestMultiple_iff.mp hm, isGreatestMultiple_iff.mp hk]

theorem Carries.eq_add_sub (h : Carries x s m) (hs : s.rounds = false) :
    m = x + s.added - s.removed := by
  cases h with
  | sum n => simp [Step.added, Step.removed]
  | difference n => simp [Step.added, Step.removed]
  | up _ _ => cases hs
  | down _ _ => cases hs

theorem Refuses.not_word {f : Fault} (h : Refuses x s f)
    (hm : Carries x s m) : ¬ (0 ≤ m ∧ m < UInt64.size) := by
  cases h with
  | above hk hle =>
      rw [hm.unique hk]
      omega
  | below hk hlt =>
      rw [hm.unique hk]
      omega
  | up hn =>
      cases hm with
      | up hpower _ => exact absurd hpower hn
  | down hn =>
      cases hm with
      | down hpower _ => exact absurd hpower hn

end

/-! ## Sums and differences -/

section

variable {x y : Address} {n : UInt64} {f : Fault}

theorem add_eq_ok_iff : x.add n = .ok y ↔ y.toNat = x.toNat + n.toNat := by
  rw [add_eq_ofNat, ofNat_eq_ok_iff]

theorem offsetFrom_eq_error_iff :
    x.offsetFrom y = .error f ↔ f = .minuendBelow ∧ x.toNat < y.toNat := by
  have hle : y.word ≤ x.word ↔ y.toNat ≤ x.toNat := UInt64.le_iff_toNat_le
  rw [offsetFrom]
  split
  · rename_i h
    exact iff_of_false nofun fun hlt ↦ Nat.not_lt.mpr (hle.mp h) hlt.2
  · rename_i h
    rw [Except.error.injEq, eq_comm, and_iff_left]
    exact Nat.lt_of_not_le (mt hle.mpr h)

/-- Both subtractions make the same check, and report it differently. -/
theorem offsetFrom_or_sub (x : Address) (n : UInt64) :
    (∃ d, x.offsetFrom ⟨n⟩ = .ok d ∧ x.sub n = .ok ⟨d⟩) ∨
      x.offsetFrom ⟨n⟩ = .error .minuendBelow ∧
        x.sub n = .error .subOverflow := by
  rw [offsetFrom, sub, subWords]
  split
  · exact .inl ⟨_, rfl, rfl⟩
  · exact .inr ⟨rfl, rfl⟩

theorem sub_eq_ok_iff : x.sub n = .ok y ↔ x.toNat = y.toNat + n.toNat := by
  rcases offsetFrom_or_sub x n with ⟨d, hdistance, hsub⟩ | ⟨hdistance, hsub⟩
  · have hsum : x.toNat = n.toNat + d.toNat :=
      offsetFrom_eq_ok_iff.mp hdistance
    have hvalue : (⟨d⟩ : Address).toNat = d.toNat := rfl
    rw [hsub, Except.ok.injEq, ← toNat_inj, hvalue]
    omega
  · have hlt : x.toNat < n.toNat := (offsetFrom_eq_error_iff.mp hdistance).2
    rw [hsub]
    exact iff_of_false nofun (by omega)

theorem sub_eq_error_iff :
    x.sub n = .error f ↔ f = .subOverflow ∧ x.toNat < n.toNat := by
  rcases offsetFrom_or_sub x n with ⟨d, hdistance, hsub⟩ | ⟨hdistance, hsub⟩
  · have hsum : x.toNat = n.toNat + d.toNat :=
      offsetFrom_eq_ok_iff.mp hdistance
    rw [hsub]
    exact iff_of_false nofun (by omega)
  · have hlt : x.toNat < n.toNat := (offsetFrom_eq_error_iff.mp hdistance).2
    rw [hsub, Except.error.injEq, eq_comm, and_iff_left hlt]

theorem undo_add (h : x.add n = .ok y) :
    y.offsetFrom x = .ok n ∧ y.sub n = .ok x := by
  have hsum := add_eq_ok_iff.mp h
  exact ⟨offsetFrom_eq_ok_iff.mpr hsum, sub_eq_ok_iff.mpr hsum⟩

end

/-! ## Steps -/

theorem step_assign {x : Address} {s : Step} {e : Except Fault Address}
    (hs : x.step s = do return (← e, .none))
    (hok : ∀ y, e = .ok y → Carries x.toNat s y.toNat)
    (herror : ∀ f, e = .error f → Refuses x.toNat s f) :
    Ends x s (x.step s) := by
  rw [hs]
  cases e with
  | ok y => exact .value (hok y rfl)
  | error f => exact .fault (herror f rfl)

theorem ends_step (x : Address) {s : Step} (hs : s.assigns = true) :
    Ends x s (x.step s) := by
  cases s with
  | addAssign n =>
      apply step_assign rfl
      · intro y hy
        rw [add_eq_ok_iff.mp hy, Int.natCast_add]
        exact .sum n
      · intro f hf
        rw [add_eq_ofNat, ofNat_eq_error_iff] at hf
        obtain ⟨rfl, hge⟩ := hf
        exact .above (.sum n) (by omega)
  | subAssign n =>
      apply step_assign rfl
      · intro y hy
        have hdiff : (y.toNat : Int) = x.toNat - n.toNat := by
          have hsum := sub_eq_ok_iff.mp hy
          omega
        rw [hdiff]
        exact .difference n
      · intro f hf
        obtain ⟨rfl, hlt⟩ := sub_eq_error_iff.mp hf
        exact .below (.difference n) (by omega)
  | alignUpAssign n =>
      by_cases hn : n.toNat.isPowerOfTwo
      · have hleast := (isLeastMultiple_iff (n := x.toNat)
          (Nat.pos_of_isPowerOfTwo hn)).mpr rfl
        apply step_assign rfl
        · intro y hy
          rw [alignUp_eq_ofNat hn, ofNat_eq_ok_iff] at hy
          exact .up hn (hy ▸ hleast)
        · intro f hf
          rw [alignUp_eq_ofNat hn, ofNat_eq_error_iff] at hf
          obtain ⟨rfl, hge⟩ := hf
          exact .above (.up hn hleast) (Int.ofNat_le.mpr hge)
      · rw [step, alignUp, maskOf_eq_error hn]
        exact .fault (.up hn)
  | alignDownAssign n =>
      by_cases hn : n.toNat.isPowerOfTwo
      · obtain ⟨y, hy, hvalue⟩ := exists_alignDown_eq_ok hn x
        rw [step, hy]
        exact .value (.down hn (isGreatestMultiple_iff.mpr hvalue))
      · rw [step, alignDown, maskOf_eq_error hn]
        exact .fault (.down hn)
  | _ => cases hs

theorem exists_step_eq_ok {x : Address} {s : Step} {m : Int}
    (h : Carries x.toNat s m) (hlow : 0 ≤ m) (hhigh : m < UInt64.size) :
    ∃ y, x.step s = .ok (y, .none) ∧ y.toNat = m := by
  have hend := ends_step x h.assigns
  generalize x.step s = result at hend
  cases hend with
  | value hy => exact ⟨_, rfl, hy.unique h⟩
  | fault hf => exact absurd ⟨hlow, hhigh⟩ (hf.not_word h)

theorem exists_step_eq_error {x : Address} {s : Step}
    (hs : s.assigns = true)
    (h : ∀ m, Carries x.toNat s m → ¬ (0 ≤ m ∧ m < UInt64.size)) :
    ∃ f, x.step s = .error f ∧ Refuses x.toNat s f := by
  have hend := ends_step x hs
  generalize x.step s = result at hend
  cases hend with
  | @value y hy =>
      have hhigh : (y.toNat : Int) < UInt64.size :=
        Int.ofNat_lt.mpr y.toNat_lt
      exact absurd ⟨Int.natCast_nonneg _, hhigh⟩ (h _ hy)
  | fault hf => exact ⟨_, rfl, hf⟩

theorem next_of_ok {x y : Address} {s : Step} {r : Reading}
    (h : x.step s = .ok (y, r)) : x.next s = y := by
  rw [next, h]

theorem next_of_error {x : Address} {s : Step} {f : Fault}
    (h : x.step s = .error f) : x.next s = x := by
  rw [next, h]

theorem next_of_reading {x : Address} {s : Step} {α : Type}
    {e : Except Fault α} {g : α → Reading}
    (h : x.step s = do return (x, g (← e))) : x.next s = x := by
  cases e with
  | ok a => exact next_of_ok h
  | error f => exact next_of_error h

theorem next_of_not_assigns (x : Address) {s : Step}
    (hs : s.assigns = false) : x.next s = x := by
  cases s with
  | add _ | sub _ | offsetFrom _ | alignUp _ | alignDown _ | isAlignedTo _ =>
      exact next_of_reading rfl
  | compare _ | naturalAlignment | isZero | text => rfl
  | _ => cases hs

/-! ## Runs -/

theorem after_append (x : Address) (before steps : List Step) :
    x.after (before ++ steps) = (x.after before).after steps :=
  List.foldl_append

theorem getElem?_run (x : Address) (before : List Step) (s : Step)
    (rest : List Step) :
    (x.run (before ++ s :: rest))[before.length]? =
      some (x.after (before ++ [s]),
        ((x.after before).step s).map Prod.snd) := by
  induction before generalizing x with
  | nil => rfl
  | cons first before ih => exact ih (x.next first)

/-- The steps of a list that change the address: those that only look and
those that are refused are left out. -/
def effective (x : Address) : List Step → List Step
  | [] => []
  | s :: rest =>
      if s.assigns && (x.step s).isOk then
        s :: effective (x.next s) rest
      else effective (x.next s) rest

theorem next_of_not_effective {x : Address} {s : Step}
    (h : ¬ (s.assigns && (x.step s).isOk) = true) : x.next s = x := by
  cases hs : s.assigns with
  | false => exact next_of_not_assigns x hs
  | true =>
      cases hstep : x.step s with
      | ok result => simp [hs, hstep, Except.isOk, Except.toBool] at h
      | error f => exact next_of_error hstep

theorem exists_step_of_effective {x : Address} {s : Step}
    (h : (s.assigns && (x.step s).isOk) = true) :
    ∃ y, x.step s = .ok (y, .none) ∧ Carries x.toNat s y.toNat := by
  obtain ⟨hassigns, hok⟩ := Bool.and_eq_true_iff.mp h
  have hend := ends_step x hassigns
  generalize x.step s = result at hend hok
  cases hend with
  | value hy => exact ⟨_, rfl, hy⟩
  | fault _ => cases hok

theorem after_effective (x : Address) (steps : List Step) :
    x.after (x.effective steps) = x.after steps := by
  induction steps generalizing x with
  | nil => rfl
  | cons s rest ih =>
      have hrest : (x.next s).after ((x.next s).effective rest) =
          x.after (s :: rest) := ih (x.next s)
      rw [effective]
      split
      · exact hrest
      · rename_i h
        rw [next_of_not_effective h] at hrest ⊢
        exact hrest

theorem effective_sublist (x : Address) (steps : List Step) :
    (x.effective steps).Sublist steps := by
  induction steps generalizing x with
  | nil => exact .slnil
  | cons s rest ih =>
      rw [effective]
      split
      · exact (ih (x.next s)).cons_cons s
      · exact (ih (x.next s)).cons s

theorem step_effective {x : Address} {steps before : List Step} {s : Step}
    {rest : List Step} (h : x.effective steps = before ++ s :: rest) :
    s.assigns = true ∧ ∃ y, (x.after before).step s = .ok (y, .none) := by
  induction steps generalizing x before with
  | nil => simp [effective] at h
  | cons first steps ih =>
      rw [effective] at h
      split at h
      · rename_i hfirst
        cases before with
        | nil =>
            obtain ⟨rfl, _⟩ := List.cons.inj h
            obtain ⟨y, hy, hcarries⟩ := exists_step_of_effective hfirst
            exact ⟨hcarries.assigns, y, hy⟩
        | cons _ before =>
            obtain ⟨rfl, hlater⟩ := List.cons.inj h
            exact ih (x := x.next first) hlater
      · rename_i hfirst
        rw [next_of_not_effective hfirst] at h
        exact ih h

def total (amount : Step → Nat) : List Step → Nat
  | [] => 0
  | s :: rest => amount s + total amount rest

theorem after_sub_eq_total (x : Address) {steps : List Step}
    (h : ∀ s ∈ steps, s.rounds = false) :
    ((x.after steps).toNat : Int) - x.toNat =
      total Step.added (x.effective steps) -
        total Step.removed (x.effective steps) := by
  induction steps generalizing x with
  | nil => exact Int.sub_self _
  | cons s rest ih =>
      obtain ⟨hs, hrest⟩ := List.forall_mem_cons.mp h
      have hlater := ih (x.next s) hrest
      have hafter : x.after (s :: rest) = (x.next s).after rest := rfl
      rw [effective, hafter]
      split
      · rename_i heffective
        obtain ⟨y, hy, hcarries⟩ := exists_step_of_effective heffective
        have hmoved := hcarries.eq_add_sub hs
        rw [next_of_ok hy] at hlater ⊢
        simp only [total]
        omega
      · rename_i h
        rw [next_of_not_effective h] at hlater ⊢
        exact hlater

/-- Each assigning step of a run leads to the word that its operation on
unbounded integers gives.  If that is no word, or the step rounds to what is
no power of two, the step is refused and the address stays as it was, as it
does when a step only looks.  Without the steps that are refused or only look
the run ends at the same address, and a run that does not round moves by what
its additions add less what its subtractions take away.  What an addition
adds, both subtractions take away again, and a distance is refused exactly if
the other address lies above. -/
theorem run_arithmetic_exact (x : Address) (steps : List Step) :
    (∀ before s rest, steps = before ++ s :: rest →
      let y := x.after before
      let z := x.after (before ++ [s])
      (x.run steps)[before.length]? =
        some (z, (y.step s).map Prod.snd) ∧
      (s.assigns = false → z = y) ∧
      (s.assigns = true →
        (∀ m, Carries y.toNat s m → 0 ≤ m → m < UInt64.size →
          y.step s = .ok (z, .none) ∧ z.toNat = m) ∧
        ((∀ m, Carries y.toNat s m → ¬ (0 ≤ m ∧ m < UInt64.size)) →
          z = y ∧ ∃ f, y.step s = .error f ∧ Refuses y.toNat s f))) ∧
    ((x.effective steps).Sublist steps ∧
      x.after (x.effective steps) = x.after steps ∧
      ∀ before s rest, x.effective steps = before ++ s :: rest →
        s.assigns = true ∧
          ∃ y, (x.after before).step s = .ok (y, .none)) ∧
    ((∀ s ∈ steps, s.rounds = false) →
      ((x.after steps).toNat : Int) - x.toNat =
        total Step.added (x.effective steps) -
          total Step.removed (x.effective steps)) ∧
    ∀ (a b : Address) (n : UInt64),
      (a.add n = .ok b → b.offsetFrom a = .ok n ∧ b.sub n = .ok a) ∧
      ((∃ f, a.offsetFrom b = .error f) ↔ a.toNat < b.toNat) := by
  refine ⟨?_, ⟨effective_sublist x steps, after_effective x steps, ?_⟩,
    after_sub_eq_total x, ?_⟩
  · rintro before s rest rfl y z
    have hz : z = y.next s := after_append x before [s]
    refine ⟨getElem?_run x before s rest, ?_, ?_⟩
    · intro hs
      rw [hz, next_of_not_assigns y hs]
    · intro hs
      refine ⟨?_, ?_⟩
      · intro m hm hlow hhigh
        obtain ⟨w, hstep, hvalue⟩ := exists_step_eq_ok hm hlow hhigh
        rw [hz, next_of_ok hstep]
        exact ⟨hstep, hvalue⟩
      · intro hnone
        obtain ⟨f, hstep, hrefuses⟩ := exists_step_eq_error hs hnone
        exact ⟨hz.trans (next_of_error hstep), f, hstep, hrefuses⟩
  · intro before s rest h
    exact step_effective h
  · intro a b n
    refine ⟨undo_add, ?_⟩
    simp only [offsetFrom_eq_error_iff, exists_eq_left]

def highAddress : Address :=
  ⟨0xfffffffffffffff1⟩

/-- Steps from there, of which the first, the second and the fourth are
refused. -/
def highSteps : List Step :=
  [ .addAssign 15, .alignUpAssign 24, .addAssign 8, .alignUpAssign 8,
    .subAssign 9 ]

theorem run_highSteps :
    (∃ f, (highAddress.run highSteps)[3]? =
      some (⟨0xfffffffffffffff9⟩, .error f)) ∧
    (highAddress.run highSteps)[4]? =
      some (⟨0xfffffffffffffff0⟩, .ok .none) ∧
    highAddress.after [.addAssign 8, .subAssign 9] =
      highAddress.after highSteps ∧
    ((highAddress.after [.addAssign 15, .addAssign 8, .subAssign 9]).toNat :
      Int) - highAddress.toNat = -1 ∧
    highAddress.add 8 = .ok ⟨0xfffffffffffffff9⟩ ∧
    (⟨0xfffffffffffffff9⟩ : Address).sub 8 = .ok highAddress := by
  obtain ⟨hsteps, ⟨_, heffective, _⟩, _, hsums⟩ :=
    run_arithmetic_exact highAddress highSteps
  obtain ⟨_, _, hmoved, _⟩ := run_arithmetic_exact highAddress
    [.addAssign 15, .addAssign 8, .subAssign 9]
  have hlast : highAddress.effective highSteps =
      [.addAssign 8, .subAssign 9] := by decide
  have hsum : highAddress.add 8 = .ok ⟨0xfffffffffffffff9⟩ := rfl
  refine ⟨?_, ?_, hlast ▸ heffective, hmoved (by decide), hsum,
    ((hsums _ _ 8).1 hsum).2⟩
  · obtain ⟨hentry, _, hassign⟩ := hsteps (highSteps.take 3)
      (.alignUpAssign 8) [.subAssign 9] rfl
    have hover : ∀ m, Carries (highAddress.after (highSteps.take 3)).toNat
        (.alignUpAssign 8) m → ¬ (0 ≤ m ∧ m < UInt64.size) := by
      intro m hm
      cases hm with
      | up hn hleast =>
          rw [(isLeastMultiple_iff (Nat.pos_of_isPowerOfTwo hn)).mp hleast]
          decide
    obtain ⟨hsame, f, hstep, _⟩ := (hassign rfl).2 hover
    refine ⟨f, ?_⟩
    rw [hstep, hsame] at hentry
    exact hentry
  · obtain ⟨hentry, _, hassign⟩ := hsteps (highSteps.take 4)
      (.subAssign 9) [] rfl
    obtain ⟨hstep, _⟩ := (hassign rfl).1 _ (.difference 9) (by decide)
      (by decide)
    rw [hstep] at hentry
    exact hentry

end Address

end AlignedStorage
