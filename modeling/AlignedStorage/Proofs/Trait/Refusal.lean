import AlignedStorage.Proofs.Grammar.Members

/-!
# Which marked items are refused

The checks of a marked item come in a fixed order: its arguments, its form,
its members.  The last goes by the associated types alone, wherever they stand
and however many there are; the other members can be exchanged at will.
-/

namespace AlignedStorage

/-- What is documented of the members that are read: the associated types are
those printed with the word `type` behind their attributes. -/
def TraitGrammar.Classifies (g : TraitGrammar) : Prop :=
  ∀ item t, g.parse item = .ok t → ∀ m ∈ t.members, Classified m

/-- The endings for a marked item. -/
inductive MarkedVerdict (g : TraitGrammar) (arguments item : List Token) :
    Except AbstractTypeError (List Token) → Prop
  | takesArguments (harguments : arguments ≠ []) :
      MarkedVerdict g arguments item (.error .takesArguments)
  | item (harguments : arguments = []) (message : String)
      (hmessage : g.parse item = .error message) :
      MarkedVerdict g arguments item (.error (.item message))
  | associatedType (harguments : arguments = []) (t : TraitItem)
      (ht : g.parse item = .ok t)
      (hsome : ∃ m ∈ t.members, m.kind = .associatedType) :
      MarkedVerdict g arguments item (.error .associatedType)
  | expanded (harguments : arguments = []) (t : TraitItem)
      (ht : g.parse item = .ok t)
      (hnone : ∀ m ∈ t.members, m.kind ≠ .associatedType) :
      MarkedVerdict g arguments item (.ok (t.expand g))

theorem markedVerdict (g : TraitGrammar) (arguments item : List Token) :
    MarkedVerdict g arguments item (abstractType g arguments item) := by
  unfold abstractType
  split
  · rename_i hempty
    have harguments : arguments = [] := List.isEmpty_iff.mp hempty
    split
    · rename_i message hmessage
      exact .item harguments message hmessage
    · rename_i t ht
      split
      · rename_i hany
        apply MarkedVerdict.associatedType harguments t ht
        simpa using hany
      · rename_i hany
        apply MarkedVerdict.expanded harguments t ht
        simpa using hany
  · rename_i hempty
    apply MarkedVerdict.takesArguments
    rintro rfl
    exact hempty rfl

section

variable {g : TraitGrammar} {arguments item : List Token}

/-- An item is refused for one of three reasons, the first that holds. -/
theorem abstractType_eq_error_iff {e : AbstractTypeError} :
    abstractType g arguments item = .error e ↔
      (arguments ≠ [] ∧ e = .takesArguments) ∨
      (arguments = [] ∧ ∃ message, g.parse item = .error message ∧
        e = .item message) ∨
      (arguments = [] ∧ ∃ t, g.parse item = .ok t ∧
        (∃ m ∈ t.members, m.kind = .associatedType) ∧
        e = .associatedType) := by
  have hverdict := markedVerdict g arguments item
  generalize abstractType g arguments item = x at hverdict
  cases hverdict with
  | takesArguments harguments => simp [harguments, eq_comm]
  | item harguments message hmessage =>
      simp [harguments, hmessage, eq_comm]
  | associatedType harguments t ht hsome =>
      constructor
      · rintro ⟨⟩
        exact .inr (.inr ⟨harguments, t, ht, hsome, rfl⟩)
      · rintro (⟨hne, _⟩ | ⟨_, message, hmessage, _⟩ | ⟨_, _, _, _, rfl⟩)
        · exact absurd harguments hne
        · cases ht.symm.trans hmessage
        · rfl
  | expanded harguments t ht hnone =>
      refine iff_of_false nofun ?_
      rintro (⟨hne, _⟩ | ⟨_, message, hmessage, _⟩ |
        ⟨_, u, hu, ⟨m, hm, hkind⟩, _⟩)
      · exact hne harguments
      · cases ht.symm.trans hmessage
      · cases ht.symm.trans hu
        exact hnone m hm hkind

end

/-! ## Revised traits -/

/-- Members that come of others by a change of their order, and by members
added and removed that are no associated types. -/
inductive Revised : List Member → List Member → Prop
  | same {ms : List Member} : Revised ms ms
  | perm {ms ns ks : List Member} (h : Revised ms ns) (hperm : ns.Perm ks) :
      Revised ms ks
  | add {ms ns : List Member} (m : Member) (hm : m.kind ≠ .associatedType)
      (h : Revised ms ns) : Revised ms (m :: ns)
  | remove {ms ns : List Member} (m : Member) (hm : m.kind ≠ .associatedType)
      (h : Revised ms (m :: ns)) : Revised ms ns

theorem exists_associatedType_cons_iff {m : Member} {ms : List Member}
    (hm : m.kind ≠ .associatedType) :
    (∃ k ∈ m :: ms, k.kind = .associatedType) ↔
      ∃ k ∈ ms, k.kind = .associatedType := by
  simp [hm]

theorem Revised.exists_associatedType_iff {ms ns : List Member}
    (h : Revised ms ns) :
    (∃ m ∈ ns, m.kind = .associatedType) ↔
      ∃ m ∈ ms, m.kind = .associatedType := by
  induction h with
  | same => exact Iff.rfl
  | perm _ hperm ih =>
      rw [← ih]
      simp only [hperm.mem_iff]
  | add m hm _ ih => rw [exists_associatedType_cons_iff hm, ih]
  | remove m hm _ ih => rw [← ih, exists_associatedType_cons_iff hm]

/-- Arguments are refused whatever is marked.  Without arguments, what is no
trait is refused for what the grammar finds wrong with it, and a trait exactly
when one of its members, wherever it stands, is printed with the word `type`
behind its attributes.  One report is all that is put in the place of a refused
item; any other item is expanded.  To move the members of a trait, and to add
or remove any that are not associated types, changes nothing about what it is
refused for. -/
theorem abstractType_refuses_exactly {g : TraitGrammar} (hg : g.Classifies)
    (arguments item : List Token) :
    (arguments ≠ [] → abstractTypeOutput g arguments item =
      g.refusal "#[abstract_type] does not take arguments") ∧
    (∀ message, arguments = [] → g.parse item = .error message →
      abstractTypeOutput g arguments item = g.refusal message) ∧
    (∀ t, arguments = [] → g.parse item = .ok t →
      (∃ m ∈ t.members, NamesType m.tokens) →
      abstractTypeOutput g arguments item =
        g.refusal "#[abstract_type] traits cannot have associated types") ∧
    (∀ t, arguments = [] → g.parse item = .ok t →
      (∀ m ∈ t.members, ¬ NamesType m.tokens) →
      abstractType g arguments item = .ok (t.expand g) ∧
        abstractTypeOutput g arguments item = t.expand g) ∧
    (∀ e, abstractType g arguments item = .error e ↔
      (arguments ≠ [] ∧ e = .takesArguments) ∨
      (arguments = [] ∧ ∃ message, g.parse item = .error message ∧
        e = .item message) ∨
      (arguments = [] ∧ ∃ t, g.parse item = .ok t ∧
        (∃ m ∈ t.members, NamesType m.tokens) ∧ e = .associatedType)) ∧
    (∀ t other u, g.parse item = .ok t → g.parse other = .ok u →
      Revised t.members u.members →
      ∀ e, abstractType g arguments other = .error e ↔
        abstractType g arguments item = .error e) := by
  have hnames {item : List Token} {t : TraitItem} (ht : g.parse item = .ok t) :
      (∃ m ∈ t.members, NamesType m.tokens) ↔
        ∃ m ∈ t.members, m.kind = .associatedType :=
    exists_congr fun m ↦ and_congr_right fun hm ↦ (hg item t ht m hm).symm
  have houtput {e : AbstractTypeError}
      (he : abstractType g arguments item = .error e) :
      abstractTypeOutput g arguments item = g.refusal e.message := by
    rw [abstractTypeOutput, he]
  refine ⟨fun harguments ↦ ?_, fun message harguments hmessage ↦ ?_,
    fun t harguments ht hsome ↦ ?_, fun t harguments ht hnone ↦ ?_,
    fun e ↦ ?_, fun t other u ht hu hrevised e ↦ ?_⟩
  · exact houtput (abstractType_eq_error_iff.mpr (.inl ⟨harguments, rfl⟩))
  · exact houtput (abstractType_eq_error_iff.mpr
      (.inr (.inl ⟨harguments, message, hmessage, rfl⟩)))
  · exact houtput (abstractType_eq_error_iff.mpr
      (.inr (.inr ⟨harguments, t, ht, (hnames ht).mp hsome, rfl⟩)))
  · have hkinds : ∀ m ∈ t.members, m.kind ≠ .associatedType :=
      fun m hm hkind ↦ hnone m hm ((hg item t ht m hm).mp hkind)
    have hexpanded : abstractType g arguments item = .ok (t.expand g) := by
      rw [harguments]
      exact abstractType_eq_ok ht hkinds
    refine ⟨hexpanded, ?_⟩
    rw [abstractTypeOutput, hexpanded]
  · rw [abstractType_eq_error_iff]
    refine or_congr_right (or_congr_right (and_congr_right fun _ ↦ ?_))
    refine exists_congr fun t ↦ and_congr_right fun ht ↦ ?_
    rw [hnames ht]
  · rw [abstractType_eq_error_iff, abstractType_eq_error_iff, ht, hu]
    have hsame := hrevised.exists_associatedType_iff
    simp [hsame]

/-! ## A trait and a revision of it -/

def stepMember : Member :=
  ⟨.method, [.word "fn", .word "step", .group .paren [.word "self"],
    .punct ';']⟩

/-- An associated type with an attribute, a parameter and a bound. -/
def itemMember : Member :=
  ⟨.associatedType, [.punct '#', .group .bracket [.word "doc"],
    .word "type", .word "Item", .punct '<', .word "T", .punct '>',
    .punct ':', .word "Copy", .punct ';']⟩

def sizeMember : Member :=
  ⟨.constant, [.word "const", .word "SIZE", .punct ':', .word "u8",
    .punct ';']⟩

def moreMember : Member :=
  ⟨.invocation, [.word "more", .punct '!', .group .paren [], .punct ';']⟩

def cursorMembers : List Member :=
  [stepMember, itemMember, sizeMember]

def revisedMembers : List Member :=
  [sizeMember, moreMember, itemMember]

theorem revised_cursorMembers : Revised cursorMembers revisedMembers := by
  have hremoved : Revised cursorMembers [itemMember, sizeMember] :=
    .remove stepMember nofun .same
  have hadded : Revised cursorMembers [moreMember, itemMember, sizeMember] :=
    .add moreMember nofun hremoved
  apply hadded.perm
  decide

/-- The definition of a trait with some members. -/
def cursorText (ms : List Member) : List Token :=
  [.word "trait", .word "Cursor",
    .group .brace (ms.flatMap Member.tokens)]

theorem exists_parse_of_members {item : List Token} {ms : List Member}
    (h : (TraitItem.parse item).toOption.map TraitItem.members = some ms) :
    ∃ t, TraitGrammar.ofRules.parse item = .ok t ∧ t.members = ms := by
  cases ht : TraitItem.parse item with
  | error e =>
      rw [ht] at h
      cases h
  | ok t =>
      rw [ht] at h
      exact ⟨t, TraitGrammar.parse_ofRules.mpr ht, Option.some.inj h⟩

theorem TraitGrammar.classifies_ofRules : ofRules.Classifies :=
  fun _ _ ht ↦ TraitItem.classified_of_parse (parse_ofRules.mp ht)

theorem parse_struct :
    TraitGrammar.ofRules.parse [.word "struct"] = .error "expected `trait`" := by
  have hread : (match TraitGrammar.ofRules.parse [.word "struct"] with
      | .ok _ => false
      | .error message => message = "expected `trait`") = true := by
    decide +kernel
  cases h : TraitGrammar.ofRules.parse [.word "struct"] with
  | ok t =>
      rw [h] at hread
      cases hread
  | error message =>
      rw [h] at hread
      rw [of_decide_eq_true hread]

/-- The call of the macro that reports an error, for a text without escapes. -/
def reportTokens (text : String) : List Token :=
  [.leaf (.punct ':' true), .leaf (.punct ':' false), .leaf (.word "core"),
    .leaf (.punct ':' true), .leaf (.punct ':' false),
    .leaf (.word "compile_error"), .leaf (.punct '!' false),
    .group .brace [.leaf (.literal ("\"" ++ text ++ "\""))]]

/-- Without the method, with the constant in front and with the call of a macro
the trait is refused as before, for the one associated type that it has. -/
theorem abstractType_cursor :
    TraitGrammar.ofRules.Classifies ∧
    (∃ t u, TraitGrammar.ofRules.parse (cursorText cursorMembers) = .ok t ∧
      TraitGrammar.ofRules.parse (cursorText revisedMembers) = .ok u ∧
      Revised t.members u.members ∧
      itemMember ∈ t.members ∧ NamesType itemMember.tokens) ∧
    abstractType .ofRules [] (cursorText revisedMembers) =
      .error .associatedType ∧
    abstractTypeOutput .ofRules [] (cursorText cursorMembers) =
      reportTokens "#[abstract_type] traits cannot have associated types" ∧
    abstractTypeOutput .ofRules [.word "x"] [.word "struct"] =
      reportTokens "#[abstract_type] does not take arguments" ∧
    abstractTypeOutput .ofRules [] [.word "struct"] =
      reportTokens "expected `trait`" := by
  have hg := TraitGrammar.classifies_ofRules
  have hcursor : (TraitItem.parse (cursorText cursorMembers)).toOption.map
      TraitItem.members = some cursorMembers := by
    decide +kernel
  have hrevision : (TraitItem.parse (cursorText revisedMembers)).toOption.map
      TraitItem.members = some revisedMembers := by
    decide +kernel
  obtain ⟨t, ht, htmembers⟩ := exists_parse_of_members hcursor
  obtain ⟨u, hu, humembers⟩ := exists_parse_of_members hrevision
  have hrevised : Revised t.members u.members := by
    rw [htmembers, humembers]
    exact revised_cursorMembers
  have hitem : itemMember ∈ t.members := by
    rw [htmembers]
    decide
  have hnames : NamesType itemMember.tokens :=
    .behind false _ (.word _)
  obtain ⟨_, _, houtput, _, herror, hrevisions⟩ :=
    abstractType_refuses_exactly hg [] (cursorText cursorMembers)
  obtain ⟨harguments, _⟩ :=
    abstractType_refuses_exactly hg [.word "x"] [.word "struct"]
  obtain ⟨_, hmessage, _⟩ :=
    abstractType_refuses_exactly hg [] [.word "struct"]
  have hrefused := (herror .associatedType).mpr
    (.inr (.inr ⟨rfl, t, ht, ⟨itemMember, hitem, hnames⟩, rfl⟩))
  refine ⟨hg, ⟨t, u, ht, hu, hrevised, hitem, hnames⟩,
    (hrevisions t _ u ht hu hrevised _).mpr hrefused, ?_, ?_, ?_⟩
  · rw [houtput t rfl ht ⟨itemMember, hitem, hnames⟩]
    decide +kernel
  · rw [harguments (List.cons_ne_nil _ _)]
    decide +kernel
  · rw [hmessage _ rfl parse_struct]
    decide +kernel

end AlignedStorage
