import AlignedStorage.Proofs.Grammar.Yields

/-!
# What the members of a trait are

A member is an associated type exactly when it is printed with the word `type`
behind its attributes.  The word that a reader goes by is the first that it
prints.  A member that is passed on as it is written starts, behind the same
attributes, with a mark or with the word `const`.
-/

namespace AlignedStorage

/-! ## Tokens that define a type -/

/-- Tokens that start with the word `type`, behind attributes if there are
any. -/
inductive NamesType : List Token → Prop
  | word (rest : List Token) : NamesType (Token.word "type" :: rest)
  | behind (joint : Bool) (content : List Token) {rest : List Token}
      (h : NamesType rest) :
      NamesType (.leaf (.punct '#' joint) :: .group .bracket content :: rest)

/-- Tokens that are no definition of a type, whatever stands behind them. -/
def NamesOther (tokens : List Token) : Prop :=
  ∀ rest, ¬ NamesType (tokens ++ rest)

/-- Nothing, or tokens that are no definition of a type. -/
def MayLead (tokens : List Token) : Prop :=
  tokens = [] ∨ NamesOther tokens

/-- Tokens that do not matter in front of a definition. -/
def PassedOver (tokens : List Token) : Prop :=
  ∀ rest, NamesType (tokens ++ rest) ↔ NamesType rest

section

variable {a b tokens : List Token}

theorem NamesType.append (h : NamesType a) (b : List Token) :
    NamesType (a ++ b) := by
  induction h with
  | word rest => exact .word (rest ++ b)
  | behind joint content _ ih => exact .behind joint content ih

theorem not_namesType_take (h : ¬ NamesType tokens) (n : Nat) :
    ¬ NamesType (tokens.take n) := by
  intro hn
  apply h
  rw [← List.take_append_drop n tokens]
  exact hn.append (tokens.drop n)

theorem NamesOther.append (h : NamesOther a) (b : List Token) :
    NamesOther (a ++ b) := by
  intro rest
  rw [List.append_assoc]
  exact h (b ++ rest)

theorem NamesOther.not_namesType (h : NamesOther a) : ¬ NamesType a := by
  rw [← List.append_nil a]
  exact h []

theorem namesOther_word {w : String} (h : w ≠ "type") :
    NamesOther [Token.word w] := by
  intro rest hnames
  cases hnames
  exact h rfl

theorem namesOther_punct {c : Char} (h : c ≠ '#') (joint : Bool) :
    NamesOther [.leaf (.punct c joint)] := by
  intro rest hnames
  cases hnames
  exact h rfl

theorem MayLead.append_other (ha : MayLead a) (hb : NamesOther b) :
    NamesOther (a ++ b) := by
  rcases ha with rfl | ha
  · exact hb
  · exact ha.append b

theorem MayLead.append (ha : MayLead a) (hb : MayLead b) :
    MayLead (a ++ b) := by
  rcases hb with rfl | hb
  · rwa [List.append_nil]
  · exact .inr (ha.append_other hb)

theorem passedOver_nil : PassedOver [] :=
  fun _ ↦ Iff.rfl

theorem PassedOver.append (ha : PassedOver a) (hb : PassedOver b) :
    PassedOver (a ++ b) := by
  intro rest
  rw [List.append_assoc, ha, hb]

theorem passedOver_attribute (joint : Bool) (content : List Token) :
    PassedOver [.leaf (.punct '#' joint), .group .bracket content] := by
  intro rest
  constructor
  · intro h
    cases h with
    | behind _ _ hrest => exact hrest
  · exact .behind joint content

end

namespace Reader

variable {place : Place}

/-! ## Attributes -/

/-- What is read of attributes has no part in what stands behind them. -/
theorem leaves_readAttribute (r : Rules) :
    Leaves (readAttribute r false) place fun tokens after ↦
      (NamesType place.rest ↔ NamesType after.rest) ∧ PassedOver tokens := by
  have hsign : "#".toList = ['#'] := by decide
  unfold readAttribute
  refine (leaves_mark hsign).bind ?_
  rintro hash behind ⟨joint, hhead, hhash, hbehind⟩
  obtain ⟨rest, hplace⟩ : ∃ rest,
      place.rest = .leaf (.punct '#' joint) :: rest :=
    List.head?_eq_some_iff.mp hhead
  rw [hplace] at hhash hbehind
  refine Leaves.bind (P := fun bang after ↦ bang = [] ∧ after = behind)
    (leaves_pure ⟨rfl, rfl⟩) ?_
  rintro _ _ ⟨rfl, rfl⟩
  refine (leaves_group .bracket (readMeta r)).bind ?_
  rintro content after ⟨written, printed, hgroup, rfl⟩
  apply leaves_pure
  have hrest : rest = .group .bracket written :: after.rest :=
    hbehind.symm.trans hgroup
  rw [hplace, hrest, hhash]
  exact ⟨passedOver_attribute joint written after.rest,
    passedOver_attribute joint printed⟩

theorem leaves_readAttributes (r : Rules) :
    Leaves (readAttributes r) place fun tokens after ↦
      (NamesType place.rest ↔ NamesType after.rest) ∧ PassedOver tokens := by
  refine leaves_repeating (I := fun tokens after ↦
    (NamesType place.rest ↔ NamesType after.rest) ∧ PassedOver tokens)
    ?_ (fun _ _ h ↦ h) ⟨Iff.rfl, passedOver_nil⟩
  rintro tokens between ⟨hbetween, htokens⟩
  apply leaves_ahead
  split
  · refine (leaves_readAttribute r).bind ?_
    rintro added after ⟨hadded, hpassed⟩
    have hboth := hbetween.trans hadded
    exact leaves_pure
      ⟨⟨hboth, htokens.append hpassed⟩, fun _ ↦
        ⟨hboth, htokens.append hpassed⟩⟩
  · exact leaves_pure ⟨⟨hbetween, htokens⟩, nofun⟩

/-! ## Marks -/

theorem not_namesType_of_startsWord {w : String} {tokens : List Token}
    (h : startsWord w tokens) (hw : w ≠ "type") : ¬ NamesType tokens := by
  obtain ⟨rest, rfl⟩ := startsWord_iff.mp h
  exact namesOther_word hw rest

theorem leaves_readVisibility :
    Leaves readVisibility place fun tokens after ↦
      (tokens = [] ∧ after = place) ∨
        (tokens ≠ [] ∧ ¬ NamesType place.rest) := by
  unfold readVisibility
  refine (leaves_word? "pub").bind ?_
  rintro front between (⟨rfl, rfl⟩ | ⟨rfl, hstarts⟩)
  · exact leaves_pure (.inl ⟨rfl, rfl⟩)
  · have hother := not_namesType_of_startsWord hstarts (by decide)
    -- Whatever follows the word, it is part of what is returned.
    apply leaves_ahead
    split
    · split
      · split
        · exact leaves_bind _ fun _ _ ↦ leaves_pure (.inr ⟨nofun, hother⟩)
        · exact leaves_pure (.inr ⟨nofun, hother⟩)
      · split
        · exact leaves_bind _ fun _ _ ↦ leaves_pure (.inr ⟨nofun, hother⟩)
        · exact leaves_pure (.inr ⟨nofun, hother⟩)
    · exact leaves_pure (.inr ⟨nofun, hother⟩)

theorem leaves_marks :
    Leaves (parts [readVisibility, word? "default"]) place fun tokens after ↦
      (tokens = [] ∧ after = place) ∨
        (tokens ≠ [] ∧ ¬ NamesType place.rest) := by
  refine leaves_parts_cons leaves_readVisibility ?_
  rintro visibility between (⟨rfl, rfl⟩ | ⟨hne, hother⟩)
  · refine leaves_parts_cons (leaves_word? "default") ?_
    rintro mark after (⟨rfl, rfl⟩ | ⟨rfl, hstarts⟩)
    · exact leaves_parts_nil (.inl ⟨rfl, rfl⟩)
    · have hother := not_namesType_of_startsWord hstarts (by decide)
      exact leaves_parts_nil (.inr ⟨nofun, hother⟩)
  · refine fun mark after _ ↦ .inr ⟨?_, hother⟩
    exact List.append_ne_nil_of_left_ne_nil hne mark

/-! ## Members -/

theorem leaves_optionalWord {w : String} (hw : w ≠ "type") :
    Leaves (word? w) place fun tokens _ ↦ MayLead tokens := by
  refine (leaves_word? w).mono ?_
  rintro tokens after (⟨rfl, _⟩ | ⟨rfl, _⟩)
  · exact .inl rfl
  · exact .inr (namesOther_word hw)

theorem leaves_otherWord {w : String} (hw : w ≠ "type") :
    Leaves (word w) place fun tokens _ ↦ NamesOther tokens := by
  refine (leaves_word w).mono ?_
  rintro tokens after rfl
  exact namesOther_word hw

/-- The parts behind a part that settles what is read do not matter. -/
theorem leaves_parts_other {part : Reader (List Token)}
    {rest : List (Reader (List Token))}
    (h : Leaves part place fun tokens _ ↦ NamesOther tokens) :
    Leaves (parts (part :: rest)) place fun tokens _ ↦ NamesOther tokens :=
  leaves_parts_cons h fun _ _ ha b _ _ ↦ ha.append b

theorem leaves_parts_lead {part : Reader (List Token)}
    {rest : List (Reader (List Token))}
    (h : Leaves part place fun tokens _ ↦ MayLead tokens)
    (hrest : ∀ place, Leaves (parts rest) place fun tokens _ ↦
      NamesOther tokens) :
    Leaves (parts (part :: rest)) place fun tokens _ ↦ NamesOther tokens :=
  leaves_parts_cons h fun _ after ha ↦ (hrest after).mono fun _ _ hb ↦
    ha.append_other hb

theorem leaves_readConvention :
    Leaves readConvention place fun tokens _ ↦ MayLead tokens := by
  unfold readConvention when
  apply leaves_ahead
  split
  · refine Leaves.mono (leaves_parts_other (leaves_otherWord ?_))
      fun _ _ h ↦ .inr h
    decide
  · exact leaves_pure (.inl rfl)

theorem leaves_readSignature (r : Rules) :
    Leaves (readSignature r) place fun tokens _ ↦ NamesOther tokens := by
  unfold readSignature readHead
  refine Leaves.bind (P := fun head _ ↦ NamesOther head.1) ?_
    fun _ _ h ↦ leaves_pure h
  have hmarks (place : Place) :
      Leaves (parts [word? "const", word? "async", word? "unsafe"]) place
        fun tokens _ ↦ MayLead tokens := by
    refine leaves_parts_cons (leaves_optionalWord (by decide)) ?_
    intro a _ ha
    refine leaves_parts_cons (leaves_optionalWord (by decide)) ?_
    intro b _ hb
    refine leaves_parts_cons (leaves_optionalWord (by decide)) ?_
    intro c _ hc
    exact leaves_parts_nil (ha.append (hb.append (hc.append (.inl rfl))))
  refine (hmarks place).bind fun marks _ hmarks ↦ ?_
  apply leaves_ahead
  refine Leaves.bind (P := fun safeMark _ ↦ safeMark = []) (leaves_pure rfl) ?_
  rintro _ _ rfl
  refine Leaves.bind (leaves_parts_lead leaves_readConvention fun _ ↦
    leaves_parts_other (leaves_otherWord ?_)) ?_
  · decide
  · intro rest _ hrest
    apply leaves_pure
    rw [List.append_nil]
    exact hmarks.append_other hrest

theorem leaves_readMethod (r : Rules) :
    Leaves (readMethod r) place fun tokens _ ↦ NamesOther tokens := by
  unfold readMethod
  refine (leaves_readSignature r).bind fun head _ hhead ↦ ?_
  apply leaves_ahead
  split
  · exact leaves_bind _ fun body _ ↦ leaves_pure (hhead.append body)
  · split
    · exact leaves_bind _ fun close _ ↦ leaves_pure (hhead.append close)
    · exact leaves_expectedSigns

theorem leaves_readConst (r : Rules) :
    Leaves (readConst r) place fun c _ ↦ NamesOther c.tokens := by
  unfold readConst
  refine (leaves_otherWord (w := "const") (by decide)).bind ?_
  intro front _ hfront
  apply leaves_ahead
  split
  · exact leaves_expectedSigns
  · refine leaves_bind _ fun own _ ↦ ?_
    apply leaves_ahead
    refine leaves_bind _ fun params _ ↦ leaves_bind _ fun valueType _ ↦
      leaves_bind _ fun value _ ↦ ?_
    apply leaves_ahead
    refine leaves_bind _ fun conditions _ ↦ leaves_bind _ fun close _ ↦
      leaves_pure ?_
    simp only [List.append_assoc]
    exact hfront.append _

theorem leaves_readTypeDefinition (r : Rules) (condition : ConditionPlace) :
    Leaves (readTypeDefinition r condition) place fun d _ ↦
      NamesType d.memberTokens := by
  unfold readTypeDefinition
  refine Leaves.bind (P := fun head _ ↦ NamesType head) ?_ ?_
  · refine leaves_parts_cons (leaves_word "type") ?_
    rintro _ _ rfl own _ _
    exact .word own
  · intro head _ hhead
    refine leaves_bind _ fun colon _ ↦ ?_
    split
    -- With bounds and without them the same is read behind them.
    all_goals
      refine leaves_bind _ fun bounds _ ↦ ?_
      apply leaves_ahead
      refine leaves_bind _ fun before _ ↦ leaves_bind _ fun value _ ↦
        leaves_bind _ fun behind _ ↦ leaves_bind _ fun close _ ↦
        leaves_pure ?_
      simp only [TypeDefinition.memberTokens, List.append_assoc]
      exact hhead.append _

/-! ## Calls -/

theorem exists_word_of_startsSegment {tokens : List Token}
    (h : startsSegment tokens) :
    ∃ w rest, tokens = Token.word w :: rest ∧ w ≠ "type" := by
  cases tokens with
  | nil => cases h
  | cons t rest =>
      cases t with
      | group d inner => cases h
      | leaf l =>
          cases l with
          | word w =>
              refine ⟨w, rest, rfl, ?_⟩
              rintro rfl
              exact nomatch h
          | lifetime text => cases h
          | literal text => cases h
          | punct c joint => cases h

theorem leaves_anyWord (hsegment : startsSegment place.rest) :
    Leaves anyWord place fun tokens _ ↦ NamesOther tokens := by
  obtain ⟨w, rest, hrest, hw⟩ := exists_word_of_startsSegment hsegment
  unfold anyWord
  apply leaves_ahead
  split
  · refine (leaves_take 1).mono ?_
    rintro tokens after ⟨rfl, _⟩
    rw [hrest]
    exact namesOther_word hw
  · exact nofun

theorem leaves_name :
    Leaves name place fun tokens _ ↦ NamesOther tokens := by
  unfold name
  apply leaves_ahead
  split
  · rename_i w rest hrest
    split
    · exact nofun
    · rename_i hname
      refine (leaves_take 1).mono ?_
      rintro tokens after ⟨rfl, _⟩
      rw [hrest]
      apply namesOther_word
      rintro rfl
      exact hname (by decide)
  · exact leaves_expectedSigns

theorem leaves_optionalMark {m : String} {c : Char} {more : List Char}
    (hm : m.toList = c :: more) (hc : c ≠ '#') (hlength : 0 < m.length) :
    Leaves (mark? m) place fun tokens _ ↦ MayLead tokens := by
  unfold mark?
  apply leaves_ahead
  split
  · rename_i h
    change startsMark m.toList place.rest = true at h
    rw [hm] at h
    obtain ⟨joint, rest, hrest⟩ := startsMark_cons h
    obtain ⟨n, hn⟩ := Nat.exists_eq_succ_of_ne_zero (Nat.ne_of_gt hlength)
    refine (leaves_take m.length).mono ?_
    rintro tokens after ⟨rfl, _⟩
    rw [hrest, hn, List.take_succ_cons]
    exact .inr ((namesOther_punct hc joint).append (rest.take n))
  · exact leaves_pure (.inl rfl)

theorem leaves_readPlainPath :
    Leaves readPlainPath place fun tokens _ ↦ NamesOther tokens := by
  have hroot : "::".toList = [':', ':'] := by decide
  unfold readPlainPath
  refine (leaves_optionalMark hroot (by decide) (by decide)).bind ?_
  intro root _ hlead
  refine (leaves_joined (R := NamesOther) ?_).bind ?_
  · intro place hsegment
    exact leaves_anyWord (Bool.not_eq_eq_eq_not.mp hsegment)
  · intro segments _ hsegments
    split
    · exact leaves_name
    · exact nofun
    · rename_i last hlast
      apply leaves_pure
      apply hlead.append_other
      cases segments with
      | nil => cases hlast
      | cons first others =>
          rw [List.flatMap_cons]
          apply NamesOther.append
          apply NamesOther.append
          exact hsegments first List.mem_cons_self

theorem leaves_readMemberCall :
    Leaves readMemberCall place fun tokens _ ↦ NamesOther tokens := by
  unfold readMemberCall
  refine (leaves_parts_other leaves_readPlainPath).bind fun front _ hfront ↦ ?_
  refine leaves_bind _ fun group _ ↦ ?_
  obtain ⟨content, inBraces⟩ := group
  cases inBraces with
  | true => exact leaves_pure (hfront.append content)
  | false =>
      refine leaves_bind _ fun close _ ↦ leaves_pure ?_
      exact (hfront.append content).append close

/-! ## What a member is -/

/-- What is read behind the marks of a member is a type when it is printed as
one; what is not printed does not stand as one either. -/
theorem leaves_readMarkedMember (r : Rules) (macros : Bool) :
    Leaves (readMarkedMember r macros) place fun result _ ↦
      (∀ tokens, result.2 = some tokens →
        (result.1 = .associatedType ↔ NamesType tokens)) ∧
      (result.2 = none → ¬ NamesType place.rest) := by
  have hother {kind : MemberKind} {own : List Token}
      (hkind : kind ≠ .associatedType) (hown : NamesOther own) :
      (∀ tokens, some own = some tokens →
        (kind = .associatedType ↔ NamesType tokens)) ∧
      (some own = none → ¬ NamesType place.rest) := by
    refine ⟨?_, nofun⟩
    rintro tokens ⟨⟩
    exact iff_of_false hkind hown.not_namesType
  have hmethod : Leaves (do return (MemberKind.method, some (← readMethod r)))
      place fun result _ ↦
        (∀ tokens, result.2 = some tokens →
          (result.1 = .associatedType ↔ NamesType tokens)) ∧
        (result.2 = none → ¬ NamesType place.rest) :=
    (leaves_readMethod r).bind fun own _ hown ↦ leaves_pure (hother nofun hown)
  unfold readMarkedMember
  apply leaves_ahead
  split
  · exact hmethod
  · split
    · rename_i hconst
      dsimp only
      split
      · refine (leaves_readConst r).bind fun c _ hc ↦ leaves_pure ?_
        cases c.generic with
        | true =>
            -- A constant with parameters has no tokens of its own.
            refine ⟨nofun, fun _ ↦ ?_⟩
            exact not_namesType_of_startsWord hconst (by decide)
        | false => exact hother nofun hc
      · split
        · exact hmethod
        · exact leaves_bind _ fun _ _ ↦ leaves_expectedSigns
    · split
      · refine (leaves_readTypeDefinition r .behindValue).bind ?_
        refine fun d _ hd ↦ leaves_pure ⟨?_, nofun⟩
        rintro tokens ⟨⟩
        exact iff_of_true rfl hd
      · split
        · exact leaves_readMemberCall.bind fun own _ hown ↦
            leaves_pure (hother nofun hown)
        · exact leaves_expectedSigns

theorem leaves_since (start : List Token) :
    Leaves (since start) place fun tokens _ ↦ ∃ n, tokens = start.take n :=
  leaves_ahead (leaves_pure ⟨_, rfl⟩)

end Reader

/-- A member is an associated type when it is printed as one. -/
def Classified (m : Member) : Prop :=
  m.kind = .associatedType ↔ NamesType m.tokens

open Reader

theorem leaves_readMember (r : Rules) {place : Place} :
    Leaves (readMember r) place fun m _ ↦ Classified m := by
  unfold readMember
  apply leaves_ahead
  refine (leaves_readAttributes r).bind ?_
  rintro attributes behind ⟨hbehind, hpassed⟩
  refine leaves_marks.bind ?_
  rintro marks between hmarks
  refine (leaves_readMarkedMember r marks.isEmpty).bind ?_
  rintro ⟨kind, tokens?⟩ _ ⟨hprinted, hwritten⟩
  have hunread (h : ¬ NamesType place.rest) (after : Place) :
      Leaves (do return ⟨.unread, ← since place.rest⟩) after fun m _ ↦
        Classified m := by
    refine (leaves_since place.rest).bind ?_
    rintro _ _ ⟨n, rfl⟩
    exact leaves_pure (iff_of_false nofun (not_namesType_take h n))
  rcases hmarks with ⟨rfl, rfl⟩ | ⟨hne, hother⟩
  -- Without marks the member starts right behind its attributes.
  · cases tokens? with
    | some tokens =>
        apply leaves_pure
        rw [Classified, hpassed]
        exact hprinted tokens rfl
    | none =>
        apply hunread
        rw [hbehind]
        exact hwritten rfl
  · obtain ⟨mark, more, rfl⟩ := List.exists_cons_of_ne_nil hne
    apply hunread
    rw [hbehind]
    exact hother

theorem leaves_readMembers (r : Rules) {place : Place} :
    Leaves (readMembers r) place fun members _ ↦
      ∀ m ∈ members, Classified m := by
  unfold readMembers
  refine Leaves.bind (leaves_repeating
    (I := fun (done : List Member) _ ↦ ∀ m ∈ done, Classified m)
    ?_ (fun _ _ hdone ↦ hdone) nofun) fun done _ hdone ↦ leaves_pure ?_
  · intro done place hdone
    refine leaves_bind _ fun ended _ ↦ ?_
    split
    · exact leaves_pure ⟨hdone, nofun⟩
    · refine (leaves_readMember r).bind fun m _ hm ↦ ?_
      have hmore : ∀ k ∈ m :: done, Classified k :=
        List.forall_mem_cons.mpr ⟨hm, hdone⟩
      exact leaves_pure ⟨hmore, fun _ ↦ hmore⟩
  · intro m hm
    exact hdone m (List.mem_reverse.mp hm)

theorem yields_members (r : Rules) :
    Yields (readAttributedTrait r) fun t ↦ ∀ m ∈ t.members, Classified m := by
  have hbody : Yields
      (do return (← readInnerAttributes r, ← readMembers r))
      fun (body : List Token × List Member) ↦
        ∀ m ∈ body.2, Classified m := by
    intro place
    refine leaves_bind _ fun inner _ ↦ ?_
    exact (leaves_readMembers r).bind fun members _ hmembers ↦
      leaves_pure hmembers
  intro place
  refine leaves_bind _ fun attributes _ ↦ leaves_bind _ fun head _ ↦
    leaves_bind _ fun supertraits _ ↦ leaves_bind _ fun predicates _ ↦ ?_
  exact (leaves_inside .brace hbody).bind fun body _ hmembers ↦
    leaves_pure hmembers.1

theorem TraitItem.classified_of_parse {item : List Token} {t : TraitItem}
    (h : parse item = .ok t) : ∀ m ∈ t.members, Classified m :=
  of_run_eq_ok yields_members h

end AlignedStorage
