import Mathlib.Data.List.Nodup
import AlignedStorage.Proofs.Trait.Parameters

/-!
# Implementations for trait objects

Behind a trait stand three implementations, for its plain objects and for
those with markers.  Each declares one lifetime more than the trait has, for
the bound of its objects, while the object type takes the parameters of the
trait and no others.  So every name in an object type is bound, and bound
once.
-/

namespace AlignedStorage

/-- A path from the root of all paths.  The first colon of each separator joins
the second. -/
def rootedPath (names : List String) : List Token :=
  names.flatMap fun name ↦
    [.leaf (.punct ':' true), .leaf (.punct ':' false), .leaf (.word name)]

structure ObjectImpl where
  parameters : List GenericParam
  traitName : String
  arguments : List Leaf
  markers : List String
  /-- The conditions behind `where`. -/
  conditions : List Token

namespace ObjectImpl

def whereTokens (o : ObjectImpl) : List Token :=
  if o.conditions.isEmpty then [] else .leaf (.word "where") :: o.conditions

def markerTokens (o : ObjectImpl) : List Token :=
  o.markers.flatMap fun marker ↦
    .leaf (.punct '+' false) :: rootedPath ["core", "marker", marker]

/-- The alignment of an implementation is that of the base. -/
def baseAlignment : List Token :=
  [.leaf (.word "const"), .leaf (.word "ALIGNMENT"), .leaf (.punct ':' false),
    .leaf (.word "usize"), .leaf (.punct '=' false),
    .leaf (.punct '<' false)] ++
    rootedPath ["alignkit", "AbstractBase"] ++ [.leaf (.word "as")] ++
    rootedPath ["alignkit", "AlignOf"] ++ [.leaf (.punct '>' false)] ++
    rootedPath ["ALIGNMENT"] ++ [.leaf (.punct ';' false)]

/-- The tokens of an implementation: `impl`, the parameters, the alignment
trait, and behind `for` the object type with its arguments, markers and bound;
then the conditions, and in braces the alignment. -/
inductive Spells (o : ObjectImpl) : List Token → Prop
  | intro {texts : List (List Token)} {declared applied : List Token}
      (htexts : List.Forall₂ GenericParam.Declares o.parameters texts)
      (hdeclared : Angled texts declared)
      (happlied : Angled (o.arguments.map fun n ↦ [.leaf n]) applied) :
      Spells o <|
        [.leaf (.word "impl")] ++ declared ++
        rootedPath ["alignkit", "AlignOf"] ++
        [.leaf (.word "for"), .leaf (.word "dyn"),
          .leaf (.word o.traitName)] ++ applied ++ o.markerTokens ++
        [.leaf (.punct '+' false), .leaf (.lifetime "'__alignkit_dyn")] ++
        o.whereTokens ++
        [.group .brace baseAlignment]

/-- An implementation declares what its object type needs. -/
structure Binds (o : ObjectImpl) (t : TraitItem) : Prop where
  /-- The lifetime of the objects is declared first, then the lifetimes of the
  trait, and then its other parameters. -/
  declared : o.parameters = .lifetime [] "'__alignkit_dyn" [] ::
    (t.generics.written.filter (·.isLifetime) ++
      t.generics.written.filter (!·.isLifetime))
  applied : o.parameters.map GenericParam.name =
    .lifetime "'__alignkit_dyn" :: o.arguments
  perm : o.arguments.Perm (t.generics.written.map GenericParam.name)
  lifetimesFirst : LifetimesFirst o.arguments
  /-- Names with the lifetimes first keep the order in which they are
  written. -/
  inOrder : LifetimesFirst (t.generics.written.map GenericParam.name) →
    o.arguments = t.generics.written.map GenericParam.name
  complete : o.arguments.length = t.generics.params.length
  foreign : .lifetime "'__alignkit_dyn" ∉ o.arguments
  /-- Every name of the object type is declared exactly once. -/
  once : ∀ n ∈ .lifetime "'__alignkit_dyn" :: o.arguments,
    (o.parameters.map GenericParam.name).count n = 1

end ObjectImpl

namespace TraitItem

/-- The implementation that stands behind a trait for its objects with some
markers. -/
def objectImpl (t : TraitItem) (markers : List String) : ObjectImpl where
  parameters := .lifetime [] "'__alignkit_dyn" [] :: t.generics.ordered
  traitName := t.name
  arguments := t.generics.ordered.map GenericParam.name
  markers := markers
  conditions := t.predicates

section

variable {g : TraitGrammar} {t : TraitItem}

theorem ordered_implGenerics :
    t.implGenerics.ordered =
      .lifetime [] "'__alignkit_dyn" [] :: t.generics.ordered :=
  Generics.ordered_cons rfl t.generics

/-- The two lists of parameters are printed from two lists, the one with the
lifetime of the objects in front and the one without. -/
theorem spells_implementation (hg : g.SplitsGenerics)
    (h : Punctuated t.generics.params) (markers : ObjectMarkers)
    {names : List String}
    (hmarkers : markers.tokens = (t.objectImpl names).markerTokens) :
    (t.objectImpl names).Spells (t.implementation g markers) := by
  obtain ⟨texts, htexts, hdeclared⟩ := hg.declared
    (Generics.punctuated_cons h (.lifetime [] objectLifetime []))
  have happlied := hg.applied h
  have hwhere : g.conditions t.predicates = (t.objectImpl names).whereTokens :=
    hg.conditions t.predicates
  rw [← implGenerics, ordered_implGenerics] at htexts
  rw [← implGenerics] at hdeclared
  have hnames : (t.generics.ordered.map fun p ↦ [Token.leaf p.name]) =
      (t.objectImpl names).arguments.map fun n ↦ [.leaf n] := by
    rw [objectImpl, List.map_map]
    rfl
  rw [hnames] at happlied
  have hpath : alignOfPath = rootedPath ["alignkit", "AlignOf"] := rfl
  have hbody : alignmentConstant = ObjectImpl.baseAlignment := rfl
  have hspelled := ObjectImpl.Spells.intro htexts hdeclared happlied
  rw [implementation, objectType, hmarkers, hwhere, hpath, hbody]
  simpa [objectImpl, Token.word, Token.punct, Token.lifetime, objectLifetime]
    using hspelled

theorem arguments_perm (markers : List String) :
    (t.objectImpl markers).arguments.Perm
      (t.generics.written.map GenericParam.name) :=
  t.generics.ordered_perm.map _

theorem binds_objectImpl (markers : List String)
    (hnames : (t.generics.written.map GenericParam.name).Nodup)
    (hfresh : .lifetime "'__alignkit_dyn" ∉
      t.generics.written.map GenericParam.name) :
    (t.objectImpl markers).Binds t := by
  have hperm := arguments_perm (t := t) markers
  have happlied : (t.objectImpl markers).parameters.map GenericParam.name =
      .lifetime "'__alignkit_dyn" :: (t.objectImpl markers).arguments := rfl
  have hforeign : .lifetime "'__alignkit_dyn" ∉
      (t.objectImpl markers).arguments :=
    fun h ↦ hfresh (hperm.mem_iff.mp h)
  constructor
  case declared => rfl
  case applied => exact happlied
  case perm => exact hperm
  case lifetimesFirst => exact t.generics.lifetimesFirst_ordered
  case inOrder =>
    intro hfirst
    exact congrArg (List.map GenericParam.name) (Generics.ordered_eq hfirst)
  case complete => simpa [Generics.written] using hperm.length_eq
  case foreign => exact hforeign
  case once =>
    intro n hn
    rw [happlied]
    have hdistinct := List.nodup_cons.mpr
      ⟨hforeign, hperm.nodup_iff.mpr hnames⟩
    exact List.count_eq_one_of_mem hdistinct hn

/-- A trait without associated types, with parameters of different names none
of which is the lifetime of the objects, is followed by three implementations
for its objects, and each binds the names in its object type. -/
theorem abstractType_binds_once {item : List Token} (hg : g.SplitsGenerics)
    (hparse : g.parse item = .ok t)
    (hmembers : ∀ m ∈ t.members, m.kind ≠ .associatedType)
    (hnames : (t.generics.written.map GenericParam.name).Nodup)
    (hfresh : .lifetime "'__alignkit_dyn" ∉
      t.generics.written.map GenericParam.name) :
    (∃ plain send shared,
      abstractType g [] item = .ok (g.print t ++ plain ++ send ++ shared) ∧
      abstractTypeOutput g [] item = g.print t ++ plain ++ send ++ shared ∧
      (t.objectImpl []).Spells plain ∧
      (t.objectImpl ["Send"]).Spells send ∧
      (t.objectImpl ["Send", "Sync"]).Spells shared) ∧
    ∀ markers, (t.objectImpl markers).Binds t := by
  have hpunctuated := hg.punctuated hparse
  have hexpanded : abstractType g [] item = .ok (t.expand g) :=
    abstractType_eq_ok hparse hmembers
  refine ⟨⟨_, _, _, hexpanded, ?_,
    spells_implementation hg hpunctuated .plain rfl,
    spells_implementation hg hpunctuated .send rfl,
    spells_implementation hg hpunctuated .sendSync rfl⟩,
    fun markers ↦ binds_objectImpl markers hnames hfresh⟩
  rw [abstractTypeOutput, hexpanded]
  rfl

end

/-- A trait with parameters of each kind and an empty body:
`trait Store<'a, T: Copy = u8, const N: usize,> where T: 'a`. -/
def storeText : List Token :=
  [.word "trait", .word "Store", .punct '<', .lifetime "'a", .punct ',',
    .word "T", .punct ':', .word "Copy", .punct '=', .word "u8", .punct ',',
    .word "const", .word "N", .punct ':', .word "usize", .punct ',',
    .punct '>', .word "where", .word "T", .punct ':', .lifetime "'a",
    .group .brace []]

/-- Tokens with a blank behind each. -/
def shownTokens (tokens : List Token) : String :=
  String.join ((Token.flattenAll tokens).map fun l ↦ l.text ++ " ")

/-- An implementation for its objects, with the markers in front of the last
bound. -/
def storeImpl (markers : String) : String :=
  "impl < '__alignkit_dyn , 'a , T : Copy , const N : usize , > " ++
    ": : alignkit : : AlignOf for dyn Store < 'a , T , N , > " ++ markers ++
    "+ '__alignkit_dyn where T : 'a \x7b const ALIGNMENT : usize = " ++
    "< : : alignkit : : AbstractBase as : : alignkit : : AlignOf > " ++
    ": : ALIGNMENT ; \x7d "

theorem exists_parse_storeText :
    ∃ t, TraitGrammar.ofRules.parse storeText = .ok t ∧ t.members = [] ∧
      t.generics.written.map GenericParam.name =
        [.lifetime "'a", .word "T", .word "N"] := by
  have hread : ((parse storeText).toOption.any fun t ↦ t.members.isEmpty &&
      t.generics.written.map GenericParam.name =
        [.lifetime "'a", .word "T", .word "N"]) = true := by
    decide +kernel
  cases hparse : parse storeText with
  | error e =>
      rw [hparse] at hread
      cases hread
  | ok t =>
      rw [hparse] at hread
      obtain ⟨hmembers, hnames⟩ := Bool.and_eq_true_iff.mp hread
      exact ⟨t, TraitGrammar.parse_ofRules.mpr hparse,
        List.isEmpty_iff.mp hmembers, of_decide_eq_true hnames⟩

theorem abstractType_storeText :
    TraitGrammar.ofRules.SplitsGenerics ∧
    (∃ t, TraitGrammar.ofRules.parse storeText = .ok t ∧
      t.generics.written.map GenericParam.name =
        [.lifetime "'a", .word "T", .word "N"] ∧
      (∃ plain send shared,
        abstractType .ofRules [] storeText =
          .ok (t.tokens ++ plain ++ send ++ shared) ∧
        abstractTypeOutput .ofRules [] storeText =
          t.tokens ++ plain ++ send ++ shared ∧
        (t.objectImpl []).Spells plain ∧
        (t.objectImpl ["Send"]).Spells send ∧
        (t.objectImpl ["Send", "Sync"]).Spells shared) ∧
      ∀ markers, (t.objectImpl markers).Binds t) ∧
    shownTokens (abstractTypeOutput .ofRules [] storeText) =
      "trait Store < 'a , T : Copy = u8 , const N : usize , > " ++
        "where T : 'a \x7b \x7d " ++ storeImpl "" ++
        storeImpl "+ : : core : : marker : : Send " ++
        storeImpl ("+ : : core : : marker : : Send " ++
          "+ : : core : : marker : : Sync ") := by
  have hg := TraitGrammar.splitsGenerics_ofRules
  obtain ⟨t, hparse, hmembers, hnames⟩ := exists_parse_storeText
  have hnone : ∀ m ∈ t.members, m.kind ≠ .associatedType := by
    simp [hmembers]
  have hdistinct : (t.generics.written.map GenericParam.name).Nodup := by
    rw [hnames]
    decide
  have hfresh : .lifetime "'__alignkit_dyn" ∉
      t.generics.written.map GenericParam.name := by
    rw [hnames]
    decide
  refine ⟨hg, ⟨t, hparse, hnames,
    abstractType_binds_once hg hparse hnone hdistinct hfresh⟩, ?_⟩
  decide +kernel

end TraitItem

end AlignedStorage
