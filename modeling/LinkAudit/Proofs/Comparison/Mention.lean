import LinkAudit.Comparison.Release
import LinkAudit.Proofs.LinkMap.Unbroken
import LinkAudit.Proofs.Source.Stem
import LinkAudit.Proofs.Text.Search

/-!
Objects that a release mentions. The names of the release are searched as one text with a name on
each line. For a stem without a newline this finds what a search of the names one by one finds, and
the stems of an object that was read from a text are such stems.
-/

namespace LinkAudit.ReleaseSide

theorem asSegment_ne_nil (stem : Text) : asSegment stem ≠ [] :=
  List.append_ne_nil_of_left_ne_nil Nat.toDigits_ne_nil stem

theorem asClass_ne_nil (stem : Text) : asClass stem ≠ [] := List.cons_ne_nil _ _

theorem newline_not_mem_asSegment {stem : Text} (h : '\n' ∉ stem) : '\n' ∉ asSegment stem := by
  intro hmem
  rcases List.mem_append.mp hmem with hlength | hstem
  · exact absurd (Nat.isDigit_of_mem_toDigits (by decide) (by decide) hlength) (by decide)
  · exact h hstem

theorem newline_not_mem_asClass {stem : Text} (h : '\n' ∉ stem) : '\n' ∉ asClass stem := by
  simp [asClass, h]

theorem newline_not_mem_of_mem_stemsOf {stem path : Text} (hstem : stem ∈ ObjectFile.stemsOf path)
    (hpath : '\n' ∉ path) : '\n' ∉ stem :=
  fun hmem => hpath (ObjectFile.subset_of_mem_stemsOf hstem hmem)

/-- A stem without a newline is found among the names if and only if it is found in one of them. -/
theorem mentions_joinWith_asSegment_or_asClass {stem : Text} (h : '\n' ∉ stem)
    (names : List Text) :
    (Text.joinWith ['\n'] names).mentions (asSegment stem) = true ∨
        (Text.joinWith ['\n'] names).mentions (asClass stem) = true ↔
      ∃ name ∈ names, asSegment stem <:+: name ∨ asClass stem <:+: name := by
  rw [Text.mentions_joinWith (asSegment_ne_nil stem) (newline_not_mem_asSegment h),
    Text.mentions_joinWith (asClass_ne_nil stem) (newline_not_mem_asClass h)]
  simp only [List.any_eq_true, Text.mentions_iff_isInfix, and_or_left, exists_or]

theorem mentions_ofMap_iff (release : LinkMap) (current : Path) {path : Text}
    (h : '\n' ∉ path) :
    (ofMap release current).mentions path = true ↔
      ∃ stem, (ObjectFile.stemsOf path).getLast? = some stem ∧
        ∃ name ∈ release.symbols.map (·.name), asSegment stem <:+: name ∨ asClass stem <:+: name := by
  rw [mentions]
  cases hstem : (ObjectFile.stemsOf path).getLast? with
  | none => simp
  | some stem =>
      have hline := newline_not_mem_of_mem_stemsOf (List.mem_of_getLast? hstem) h
      simp only [Bool.or_eq_true, Option.some.injEq, exists_eq_left']
      exact mentions_joinWith_asSegment_or_asClass hline _

end LinkAudit.ReleaseSide
