import Mathlib.Data.List.Forall2
import AlignedStorage.Proofs.Grammar.Yields

/-!
# Lists of parameters

Parameters are printed with the lifetimes first, each with the comma that
stood behind it and one more where the last lifetime had none.  What comes out
is a list with commas between its elements, in the order in which arguments
are given for them.  A grammar of traits `SplitsGenerics` when it prints
parameters so in both of their places.
-/

namespace AlignedStorage

/-! ## Lists in angle brackets -/

/-- Elements with a comma between each two; one more can close the list. -/
inductive CommaSeparated : List (List Token) → List Token → Prop
  | last (e : List Token) : CommaSeparated [e] e
  | closed (e : List Token) : CommaSeparated [e] (e ++ [Token.punct ','])
  | cons (e : List Token) {es : List (List Token)} {tokens : List Token}
      (h : CommaSeparated es tokens) :
      CommaSeparated (e :: es) (e ++ Token.punct ',' :: tokens)

/-- Elements in angle brackets; without elements there are no brackets. -/
inductive Angled : List (List Token) → List Token → Prop
  | nil : Angled [] []
  | list {es : List (List Token)} {inner : List Token}
      (h : CommaSeparated es inner) :
      Angled es (Token.punct '<' :: (inner ++ [Token.punct '>']))

namespace AngleEntry

/-- A list of entries with a comma behind each but the last. -/
def Closed (entries : List AngleEntry) : Prop :=
  entries.Pairwise fun e _ ↦ e.comma

theorem commaSeparated_flatMap_text {entries : List AngleEntry}
    (hne : entries ≠ []) (h : Closed entries) :
    CommaSeparated (entries.map AngleEntry.tokens) (entries.flatMap text) := by
  induction entries with
  | nil => exact absurd rfl hne
  | cons e rest ih =>
      obtain ⟨hcomma, hrest⟩ := List.pairwise_cons.mp h
      cases rest with
      | nil =>
          cases hlast : e.comma with
          | true => simpa [text, hlast] using CommaSeparated.closed e.tokens
          | false => simpa [text, hlast] using CommaSeparated.last e.tokens
      | cons f rest =>
          have he : e.comma := hcomma f List.mem_cons_self
          have htail := ih (List.cons_ne_nil f rest) hrest
          simpa [text, he] using CommaSeparated.cons e.tokens htail

/-- Entries in front of a list are joined to it by a comma, their own or one
put in. -/
theorem commaSeparated_append {entries : List AngleEntry}
    (h : Closed entries) {es : List (List Token)} {tokens : List Token}
    (hrest : CommaSeparated es tokens) :
    CommaSeparated (entries.map AngleEntry.tokens ++ es)
      (entries.flatMap text ++
        (if entries.getLast?.any (!·.comma) then [Token.punct ','] else []) ++
        tokens) := by
  induction entries with
  | nil => simpa using hrest
  | cons e rest ih =>
      obtain ⟨hcomma, htail⟩ := List.pairwise_cons.mp h
      cases rest with
      | nil =>
          have hjoined := CommaSeparated.cons e.tokens hrest
          cases hlast : e.comma <;> simpa [text, hlast] using hjoined
      | cons f rest =>
          have he : e.comma := hcomma f List.mem_cons_self
          have hjoined := CommaSeparated.cons e.tokens (ih htail)
          simpa [text, he] using hjoined

theorem lacksComma_eq (entries : List AngleEntry) :
    lacksComma entries =
      ((lifetimes entries).getLast?.any (!·.comma) &&
        !(others entries).isEmpty) := by
  unfold lacksComma
  cases (lifetimes entries).getLast? <;> rfl

theorem commaSeparated_ordered {entries : List AngleEntry}
    (hne : entries ≠ []) (h : Closed entries) :
    CommaSeparated
      ((lifetimes entries ++ others entries).map AngleEntry.tokens)
      (ordered entries) := by
  have hlifetimes : Closed (lifetimes entries) := h.filter _
  have hothers : Closed (others entries) := h.filter _
  rw [List.map_append, ordered, lacksComma_eq]
  by_cases hempty : others entries = []
  · have hperm : (lifetimes entries ++ others entries).Perm entries :=
      List.filter_append_perm _ entries
    have hall : lifetimes entries ≠ [] := by
      intro hnone
      rw [hnone, hempty] at hperm
      exact hne (List.nil_perm.mp hperm)
    simpa [hempty] using commaSeparated_flatMap_text hall hlifetimes
  · have hjoined := commaSeparated_append hlifetimes
      (commaSeparated_flatMap_text hempty hothers)
    simpa [hempty] using hjoined

end AngleEntry

namespace GenericParam

def name : GenericParam → Leaf
  | .lifetime _ name _ => .lifetime name
  | .type _ name _ _ => .word name
  | .const _ name _ _ => .word name

theorem nameToken_eq (p : GenericParam) : p.nameToken = .leaf p.name := by
  cases p <;> rfl

/-- The tokens that declare a parameter: its attributes, its name, and its
bounds or the type of its value, but no default. -/
inductive Declares : GenericParam → List Token → Prop
  | lifetime (attributes : List Token) (name : String) :
      Declares (.lifetime attributes name [])
        (attributes ++ [.leaf (.lifetime name)])
  | boundedLifetime (attributes : List Token) (name : String)
      {bounds : List Token} (h : bounds ≠ []) :
      Declares (.lifetime attributes name bounds)
        (attributes ++
          .leaf (.lifetime name) :: .leaf (.punct ':' false) :: bounds)
  | type (attributes : List Token) (name : String)
      (fallback : Option (List Token)) :
      Declares (.type attributes name [] fallback)
        (attributes ++ [.leaf (.word name)])
  | boundedType (attributes : List Token) (name : String)
      {bounds : List Token} (h : bounds ≠ []) (fallback : Option (List Token)) :
      Declares (.type attributes name bounds fallback)
        (attributes ++
          .leaf (.word name) :: .leaf (.punct ':' false) :: bounds)
  | const (attributes : List Token) (name : String) (valueType : List Token)
      (fallback : Option (List Token)) :
      Declares (.const attributes name valueType fallback)
        (attributes ++ .leaf (.word "const") :: .leaf (.word name) ::
          .leaf (.punct ':' false) :: valueType)

theorem declares_declaration (p : GenericParam) : Declares p p.declaration := by
  cases p with
  | lifetime attributes name bounds =>
      cases bounds with
      | nil => exact .lifetime attributes name
      | cons b bounds =>
          exact .boundedLifetime attributes name (List.cons_ne_nil b bounds)
  | type attributes name bounds fallback =>
      cases bounds with
      | nil => exact .type attributes name fallback
      | cons b bounds =>
          exact .boundedType attributes name (List.cons_ne_nil b bounds)
            fallback
  | const attributes name valueType fallback =>
      exact .const attributes name valueType fallback

theorem forall₂_declares (params : List GenericParam) :
    List.Forall₂ Declares params (params.map declaration) := by
  rw [List.forall₂_map_right_iff, List.forall₂_same]
  exact fun p _ ↦ p.declares_declaration

end GenericParam

def Leaf.IsLifetime (l : Leaf) : Prop :=
  ∃ text, l = .lifetime text

theorem GenericParam.isLifetime_iff (p : GenericParam) :
    p.isLifetime ↔ p.name.IsLifetime := by
  cases p <;> simp [isLifetime, name, Leaf.IsLifetime]

/-- No lifetime stands behind a name of another kind. -/
def LifetimesFirst (names : List Leaf) : Prop :=
  names.Pairwise fun m n ↦ n.IsLifetime → m.IsLifetime

theorem lifetimesFirst_map_name_iff {params : List GenericParam} :
    LifetimesFirst (params.map GenericParam.name) ↔
      params.Pairwise fun p q ↦ q.isLifetime → p.isLifetime := by
  rw [LifetimesFirst, List.pairwise_map]
  simp only [GenericParam.isLifetime_iff]

namespace Generics

/-- The parameters in the order in which they are written. -/
def written (g : Generics) : List GenericParam :=
  g.params.map Prod.fst

/-- The parameters in the order in which arguments are given for them: the
lifetimes before the others. -/
def ordered (g : Generics) : List GenericParam :=
  g.written.filter GenericParam.isLifetime ++
    g.written.filter (!·.isLifetime)

theorem ordered_perm (g : Generics) : g.ordered.Perm g.written :=
  List.filter_append_perm _ _

theorem lifetimesFirst_ordered (g : Generics) :
    LifetimesFirst (g.ordered.map GenericParam.name) := by
  rw [lifetimesFirst_map_name_iff, ordered, List.pairwise_append]
  have hlifetime : ∀ p ∈ g.written.filter GenericParam.isLifetime,
      p.isLifetime :=
    fun p hp ↦ (List.mem_filter.mp hp).2
  refine ⟨?_, ?_, fun p hp q _ _ ↦ hlifetime p hp⟩
  · exact List.pairwise_of_forall_mem_list
      fun p hp _ _ _ ↦ hlifetime p hp
  · refine List.pairwise_of_forall_mem_list fun p _ q hq hkind ↦ ?_
    have hother := (List.mem_filter.mp hq).2
    rw [hkind] at hother
    cases hother

/-- Parameters that are declared in this order keep it. -/
theorem ordered_eq {g : Generics}
    (h : LifetimesFirst (g.written.map GenericParam.name)) :
    g.ordered = g.written := by
  rw [lifetimesFirst_map_name_iff] at h
  unfold ordered
  generalize g.written = params at h
  induction params with
  | nil => rfl
  | cons p rest ih =>
      obtain ⟨hfirst, hrest⟩ := List.pairwise_cons.mp h
      have hsplit := ih hrest
      cases hp : p.isLifetime with
      | true => simpa [hp] using hsplit
      | false =>
          have hothers : ∀ q ∈ rest, q.isLifetime = false := by
            intro q hq
            refine Bool.eq_false_iff.mpr fun hlifetime ↦ ?_
            have hkind := hfirst q hq hlifetime
            rw [hp] at hkind
            cases hkind
          have hnone : rest.filter GenericParam.isLifetime = [] := by
            simpa using hothers
          rw [hnone] at hsplit
          simpa [hp, hnone] using hsplit

theorem ordered_cons {p : GenericParam} (hp : p.isLifetime) (g : Generics) :
    (g.cons p).ordered = p :: g.ordered := by
  simp [cons, ordered, written, hp]

theorem punctuated_cons {g : Generics} (h : Punctuated g.params)
    (p : GenericParam) : Punctuated (g.cons p).params := by
  refine punctuated_cons_iff.mpr ⟨fun hne ↦ ?_, h⟩
  simpa using hne

theorem map_tokens_entries (print : GenericParam → List Token) (g : Generics) :
    (AngleEntry.lifetimes (g.entries print) ++
      AngleEntry.others (g.entries print)).map AngleEntry.tokens =
        g.ordered.map print := by
  simp only [AngleEntry.lifetimes, AngleEntry.others, entries, ordered,
    written, List.filter_map, List.map_append, List.map_map]
  rfl

theorem closed_entries {g : Generics} (h : Punctuated g.params)
    (print : GenericParam → List Token) :
    AngleEntry.Closed (g.entries print) := by
  rw [AngleEntry.Closed, entries, List.pairwise_map]
  exact h

/-- However the parameters are printed, they are listed in their order. -/
theorem angled_tokensWith {g : Generics} (h : Punctuated g.params)
    (print : GenericParam → List Token) :
    Angled (g.ordered.map print) (g.tokensWith print) := by
  rw [← map_tokens_entries, tokensWith]
  split
  · rename_i hempty
    have hnone : g.entries print = [] := by
      rw [entries, List.isEmpty_iff.mp hempty]
      rfl
    rw [hnone]
    exact .nil
  · rename_i hne
    refine .list (AngleEntry.commaSeparated_ordered ?_ (closed_entries h print))
    simpa [entries] using hne

end Generics

/-- What is documented of the printing of parameters.  A list that is read has
commas between its elements.  It is printed in angle brackets with its
lifetimes first, for an implementation with bounds and without defaults, for a
type as names alone.  Conditions stand behind `where`. -/
structure TraitGrammar.SplitsGenerics (g : TraitGrammar) : Prop where
  punctuated : ∀ {item : List Token} {t : TraitItem},
    g.parse item = .ok t → Punctuated t.generics.params
  declared : ∀ {params : Generics}, Punctuated params.params →
    ∃ texts, List.Forall₂ GenericParam.Declares params.ordered texts ∧
      Angled texts (g.declared params)
  applied : ∀ {params : Generics}, Punctuated params.params →
    Angled (params.ordered.map fun p ↦ [.leaf p.name]) (g.applied params)
  conditions : ∀ predicates, g.conditions predicates =
    if predicates.isEmpty then [] else .leaf (.word "where") :: predicates

theorem TraitGrammar.splitsGenerics_ofRules : ofRules.SplitsGenerics where
  punctuated h := TraitItem.punctuated_of_parse (parse_ofRules.mp h)
  declared h := ⟨_, GenericParam.forall₂_declares _,
    Generics.angled_tokensWith h GenericParam.declaration⟩
  applied h := by
    simp only [← GenericParam.nameToken_eq]
    exact Generics.angled_tokensWith h _
  conditions _ := rfl

end AlignedStorage
