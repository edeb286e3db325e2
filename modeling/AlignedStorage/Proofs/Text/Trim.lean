import AlignedStorage.Text.Blank

/-!
# Trimming

A text is what trimming leaves of it between two runs of blanks, and a word
without blanks is all that is left when blanks are put around it.
-/

namespace AlignedStorage

/-- Only blanks. -/
def AllBlank (cs : List Char) : Prop :=
  ∀ c ∈ cs, isBlank c

instance (cs : List Char) : Decidable (AllBlank cs) :=
  decidable_of_iff (cs.all isBlank) List.all_eq_true

theorem allBlank_takeWhile (cs : List Char) :
    AllBlank (cs.takeWhile isBlank) := by
  intro c hc
  exact (List.all_eq_true.mp (List.all_takeWhile)) c hc

theorem trimLeft_append {before : List Char} (h : AllBlank before)
    (cs : List Char) : trimLeft (before ++ cs) = trimLeft cs :=
  List.dropWhile_append_of_pos h

theorem trimRight_append {after : List Char} (h : AllBlank after)
    (cs : List Char) : trimRight (cs ++ after) = trimRight cs := by
  have hreverse : AllBlank after.reverse := fun c hc ↦
    h c (List.mem_reverse.mp hc)
  rw [trimRight, trimRight, List.reverse_append,
    List.dropWhile_append_of_pos hreverse]

theorem trimLeft_eq_self {word : List Char} (h : ∀ c ∈ word, ¬ isBlank c) :
    trimLeft word = word := by
  cases word with
  | nil => rfl
  | cons c rest =>
      exact List.dropWhile_cons_of_neg (h c List.mem_cons_self)

theorem trimRight_eq_self {word : List Char} (h : ∀ c ∈ word, ¬ isBlank c) :
    trimRight word = word := by
  have hreverse : trimLeft word.reverse = word.reverse :=
    trimLeft_eq_self fun c hc ↦ h c (List.mem_reverse.mp hc)
  rw [trimRight]
  rw [trimLeft] at hreverse
  rw [hreverse, List.reverse_reverse]

theorem trim_append {before word after : List Char}
    (hbefore : AllBlank before) (hne : word ≠ [])
    (hword : ∀ c ∈ word, ¬ isBlank c) (hafter : AllBlank after) :
    trim (before ++ word ++ after) = word := by
  obtain ⟨c, rest, rfl⟩ := List.exists_cons_of_ne_nil hne
  have hleft : trimLeft (c :: rest ++ after) = c :: rest ++ after :=
    List.dropWhile_cons_of_neg (hword c List.mem_cons_self)
  rw [trim, List.append_assoc, trimLeft_append hbefore, hleft,
    trimRight_append hafter, trimRight_eq_self hword]

theorem exists_eq_append_trim (cs : List Char) :
    ∃ before after, AllBlank before ∧ AllBlank after ∧
      before ++ trim cs ++ after = cs := by
  refine ⟨cs.takeWhile isBlank,
    ((trimLeft cs).reverse.takeWhile isBlank).reverse,
    allBlank_takeWhile cs, ?_, ?_⟩
  · intro c hc
    exact allBlank_takeWhile _ c (List.mem_reverse.mp hc)
  · have hright : trim cs ++
        ((trimLeft cs).reverse.takeWhile isBlank).reverse = trimLeft cs := by
      rw [trim, trimRight, ← List.reverse_append,
        List.takeWhile_append_dropWhile, List.reverse_reverse]
    rw [List.append_assoc, hright, trimLeft,
      List.takeWhile_append_dropWhile]

end AlignedStorage
