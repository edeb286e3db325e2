import AlignedStorage.Grammar.Reader

/-!
# What readers leave

What a reader returns from a place, and the place where it stops, are followed
through its parts.  The choice between two ways to go on is made at a place, so
what stands there is known on either way.
-/

namespace AlignedStorage

namespace Reader

/-- Whatever a reader returns from a place is related to where it stops. -/
def Leaves {α : Type} (r : Reader α) (place : Place)
    (Q : α → Place → Prop) : Prop :=
  ∀ a after, r place = .ok (a, after) → Q a after

section

variable {α β : Type} {place : Place} {P : α → Place → Prop}
  {Q : β → Place → Prop}

theorem leaves_pure {a : α} (h : P a place) : Leaves (pure a) place P := by
  intro b after hb
  cases hb
  exact h

theorem Leaves.bind {x : Reader α} {f : α → Reader β}
    (hx : Leaves x place P)
    (hf : ∀ a after, P a after → Leaves (f a) after Q) :
    Leaves (x >>= f) place Q := by
  intro b last hb
  change (x place >>= fun r ↦ f r.1 r.2) = _ at hb
  cases h : x place with
  | error e =>
      rw [h] at hb
      cases hb
  | ok result =>
      rw [h] at hb
      exact hf result.1 result.2 (hx result.1 result.2 h) b last hb

theorem leaves_bind (x : Reader α) {f : α → Reader β}
    (hf : ∀ a after, Leaves (f a) after Q) : Leaves (x >>= f) place Q :=
  Leaves.bind (P := fun _ _ ↦ True) (fun _ _ _ ↦ trivial)
    fun a after _ ↦ hf a after

theorem leaves_ahead {f : List Token → Reader β}
    (h : Leaves (f place.rest) place Q) : Leaves (ahead >>= f) place Q :=
  h

theorem leaves_get {f : Place → Reader β} (h : Leaves (f place) place Q) :
    Leaves (get >>= f) place Q :=
  h

theorem leaves_set {other : Place} {f : PUnit → Reader β}
    (h : Leaves (f ⟨⟩) other Q) : Leaves (set other >>= f) place Q :=
  h

theorem Leaves.mono {x : Reader α} {P' : α → Place → Prop}
    (hx : Leaves x place P) (h : ∀ a after, P a after → P' a after) :
    Leaves x place P' :=
  fun a after hread ↦ h a after (hx a after hread)

theorem leaves_expectedSigns {signs : List Sign} :
    Leaves (expectedSigns signs) place P :=
  nofun

theorem leaves_take (n : Nat) :
    Leaves (take n) place fun tokens after ↦
      tokens = place.rest.take n ∧ after.rest = place.rest.drop n := by
  intro tokens after h
  cases h
  exact ⟨rfl, rfl⟩

section

variable {I : α → Place → Prop} {step : α → Reader (α × Bool)}
  (hstep : ∀ a place, I a place → Leaves (step a) place fun r after ↦
    P r.1 after ∧ (r.2 → I r.1 after))
  (hlast : ∀ a place, I a place → P a place)

include hstep hlast

/-- A repetition keeps what each of its steps keeps, and ends with what the
last step leaves. -/
theorem leaves_repeatFrom (n : Nat) {a : α} (ha : I a place) :
    Leaves (repeatFrom step n a) place P := by
  -- Each round starts where the last one stopped.
  induction n generalizing a place with
  | zero => exact leaves_pure (hlast a place ha)
  | succ n ih =>
      refine (hstep a place ha).bind fun result after hresult ↦ ?_
      obtain ⟨b, again⟩ := result
      cases again with
      | true => exact ih (hresult.2 rfl)
      | false => exact leaves_pure hresult.1

theorem leaves_repeating {a : α} (ha : I a place) :
    Leaves (repeating a step) place P :=
  leaves_ahead (leaves_repeatFrom hstep hlast _ ha)

end

end

/-! ## Words -/

theorem startsWord_iff {w : String} {tokens : List Token} :
    startsWord w tokens ↔ ∃ rest, tokens = Token.word w :: rest := by
  cases tokens with
  | nil => simp [startsWord, Sign.heads]
  | cons t rest =>
      cases t with
      | leaf l => cases l <;> simp [startsWord, Sign.heads, Token.word]
      | group d inner => simp [startsWord, Sign.heads, Token.word]

variable {place : Place}

theorem leaves_word (w : String) :
    Leaves (word w) place fun tokens _ ↦ tokens = [Token.word w] := by
  unfold word
  apply leaves_ahead
  split
  · rename_i h
    obtain ⟨rest, hrest⟩ := startsWord_iff.mp h
    refine (leaves_take 1).mono ?_
    rintro tokens after ⟨rfl, _⟩
    rw [hrest]
    rfl
  · exact leaves_expectedSigns

theorem leaves_word? (w : String) :
    Leaves (word? w) place fun tokens after ↦
      (tokens = [] ∧ after = place) ∨
        (tokens = [Token.word w] ∧ startsWord w place.rest) := by
  unfold word?
  apply leaves_ahead
  split
  · rename_i h
    obtain ⟨rest, hrest⟩ := startsWord_iff.mp h
    refine (leaves_take 1).mono ?_
    rintro tokens after ⟨rfl, _⟩
    rw [hrest]
    exact .inr ⟨rfl, hrest ▸ h⟩
  · exact leaves_pure (.inl ⟨rfl, rfl⟩)

theorem startsMark_cons {c : Char} {more : List Char} {tokens : List Token}
    (h : startsMark (c :: more) tokens) :
    ∃ joint rest, tokens = .leaf (.punct c joint) :: rest := by
  unfold startsMark at h
  split at h
  case h_1 heq => cases heq
  case h_2 p joint rest heq =>
    cases heq
    exact ⟨joint, rest, by rw [eq_of_beq h]⟩
  case h_3 d more' p joint rest _ heq =>
    cases heq
    rw [Bool.and_eq_true, Bool.and_eq_true] at h
    exact ⟨joint, rest, by rw [eq_of_beq h.1.1]⟩
  case h_4 => cases h

theorem leaves_mark {m : String} {c : Char} {more : List Char}
    (hm : m.toList = c :: more) :
    Leaves (mark m) place fun tokens after ↦
      ∃ joint, place.rest.head? = some (.leaf (.punct c joint)) ∧
        tokens = place.rest.take m.length ∧
        after.rest = place.rest.drop m.length := by
  unfold mark
  apply leaves_ahead
  split
  · rename_i h
    change startsMark m.toList place.rest = true at h
    rw [hm] at h
    obtain ⟨joint, rest, hrest⟩ := startsMark_cons h
    refine (leaves_take m.length).mono ?_
    rintro tokens after ⟨htokens, hafter⟩
    exact ⟨joint, by rw [hrest]; rfl, htokens, hafter⟩
  · exact nofun

/-! ## Groups -/

/-- A group is taken as a whole, whatever is read in it. -/
theorem leaves_inside {α : Type} {P : α → Prop} (d : Delimiter)
    {content : Reader α}
    (hcontent : ∀ start, Leaves content start fun a _ ↦ P a) :
    Leaves (inside d content) place fun a after ↦
      P a ∧ ∃ written, place.rest = .group d written :: after.rest := by
  unfold inside insideUntil
  refine Leaves.bind (P := fun result after ↦
    P result.1 ∧ ∃ written, place.rest = .group d written :: after.rest) ?_
    fun _ _ h ↦ leaves_pure h
  apply leaves_get
  split
  · rename_i e written rest hplace
    split
    · rename_i hd
      subst hd
      -- Wherever the content stops, reading goes on behind the group.
      apply leaves_set
      refine Leaves.bind (P := fun a _ ↦ P a) (hcontent _) fun a _ ha ↦ ?_
      apply leaves_get
      apply leaves_set
      refine Leaves.bind (P := fun _ last ↦ last.rest = rest)
        (leaves_pure rfl) fun _ last hlast ↦ ?_
      apply leaves_get
      apply leaves_set
      exact leaves_pure ⟨ha, written, by rw [hplace, hlast]⟩
    · exact leaves_expectedSigns
  · exact leaves_expectedSigns

theorem leaves_group (d : Delimiter) (content : Reader (List Token)) :
    Leaves (group d content) place fun tokens after ↦
      ∃ written printed, place.rest = .group d written :: after.rest ∧
        tokens = [.group d printed] := by
  refine (leaves_inside (P := fun _ ↦ True) d fun _ _ _ _ ↦ trivial).bind ?_
  rintro printed after ⟨_, written, hplace⟩
  exact leaves_pure ⟨written, printed, hplace, rfl⟩

/-! ## Parts and repetitions -/

section

variable {P Q : List Token → Place → Prop} {R : List Token → Prop}

theorem leaves_parts_nil (h : Q [] place) : Leaves (parts []) place Q :=
  leaves_pure h

theorem leaves_parts_cons {part : Reader (List Token)}
    {rest : List (Reader (List Token))} (hpart : Leaves part place P)
    (hrest : ∀ a after, P a after →
      Leaves (parts rest) after fun b last ↦ Q (a ++ b) last) :
    Leaves (parts (part :: rest)) place Q :=
  hpart.bind fun a after ha ↦ (hrest a after ha).bind fun _ _ hb ↦
    leaves_pure hb

theorem leaves_joined {separator : String} {stop : List Token → Bool}
    {part : Reader (List Token)}
    (hpart : ∀ place, stop place.rest = false →
      Leaves part place fun tokens _ ↦ R tokens) :
    Leaves (joined separator stop part) place fun found _ ↦
      ∀ x ∈ found, R x.1 := by
  unfold joined
  refine Leaves.bind (leaves_repeating
    (I := fun (done : List (List Token × Bool)) _ ↦ ∀ x ∈ done, R x.1)
    ?_ (fun _ _ hdone ↦ hdone) nofun) fun done _ hdone ↦ ?_
  · intro done place hdone
    apply leaves_ahead
    split
    · exact leaves_pure ⟨hdone, nofun⟩
    · rename_i hstop
      refine (hpart place (Bool.eq_false_iff.mpr hstop)).bind ?_
      intro a after ha
      have hmore (more : Bool) : ∀ x ∈ (a, more) :: done, R x.1 :=
        List.forall_mem_cons.mpr ⟨ha, hdone⟩
      apply leaves_ahead
      split
      · exact leaves_bind _ fun _ _ ↦
          leaves_pure ⟨hmore true, fun _ ↦ hmore true⟩
      · exact leaves_pure ⟨hmore false, nofun⟩
  · apply leaves_pure
    simpa using hdone

end

end Reader

end AlignedStorage
