/-!
# Splitting a text

A text splits at the first occurrence of a separator, if there is one.
-/

namespace AlignedStorage

/-- The parts of a text before and after the first occurrence of a
separator. -/
def splitFirst (separator : Char) :
    List Char → Option (List Char × List Char)
  | [] => none
  | c :: rest =>
      if c = separator then some ([], rest)
      else (splitFirst separator rest).map fun (a, b) ↦ (c :: a, b)

theorem splitFirst_eq_none_iff {separator : Char} {cs : List Char} :
    splitFirst separator cs = none ↔ separator ∉ cs := by
  induction cs with
  | nil => simp [splitFirst]
  | cons c rest ih =>
      by_cases h : c = separator
      · simp [splitFirst, h]
      · simp [splitFirst, h, ih, Ne.symm h]

theorem splitFirst_eq_some_iff {separator : Char} {cs a b : List Char} :
    splitFirst separator cs = some (a, b) ↔
      cs = a ++ separator :: b ∧ separator ∉ a := by
  induction cs generalizing a with
  | nil => simp [splitFirst]
  | cons c rest ih =>
      by_cases h : c = separator
      · subst h
        cases a with
        | nil => simp [splitFirst]
        | cons d a =>
            simp only [splitFirst, ↓reduceIte, Option.some.injEq,
              Prod.mk.injEq, List.nil_eq, reduceCtorEq, false_and,
              List.cons_append, List.cons.injEq, List.mem_cons, not_or,
              false_iff, not_and]
            exact fun hd hne _ ↦ hne hd.1
      · cases a with
        | nil => simp [splitFirst, h]
        | cons d a =>
            simp only [splitFirst, h, ↓reduceIte, Option.map_eq_some_iff,
              Prod.exists, Prod.mk.injEq, List.cons.injEq, List.cons_append,
              List.mem_cons, not_or]
            constructor
            · rintro ⟨x, y, hxy, ⟨rfl, rfl⟩, rfl⟩
              obtain ⟨rfl, hx⟩ := ih.mp hxy
              exact ⟨⟨rfl, rfl⟩, Ne.symm h, hx⟩
            · rintro ⟨⟨rfl, hrest⟩, _, ha⟩
              exact ⟨a, b, ih.mpr ⟨hrest, ha⟩, ⟨rfl, rfl⟩, rfl⟩

end AlignedStorage
