import LinkAudit.Proofs.Text.Search
import LinkAudit.Text.Case
import Mathlib.Data.List.Count

/-!
Lowered texts. A text is lowered one character at a time, except that a small sigma has a form of
its own at the end of a word, which does not matter to a search for something without sigmas. Only
a capital I with a dot above has two characters in lower case, so that a lowered text is longer than
the text by one character for each of them, and a search for something without those characters
finds the lowered form of a stretch of the text.
-/

namespace LinkAudit.Text

/-- The capital letter whose lower-case form is an `i` with a combining dot. -/
def dottedCapital : Char := '\u0130'

/-- The small sigma in its common form, also for the one at the end of a word. -/
def commonSigma (c : Char) : Char := if c = 'ς' then 'σ' else c

/-- The lower-case form of a character wherever it stands, sigmas in their common form. -/
def plainLower (c : Char) : Text := (lowerChar c).map commonSigma

theorem length_plainLower (c : Char) :
    (plainLower c).length = 1 + if c = dottedCapital then 1 else 0 := by
  rw [plainLower, List.length_map, lowerChar, dottedCapital]
  split
  · rename_i hascii
    have hne : c ≠ '\u0130' := by
      rintro rfl
      exact absurd hascii (by decide)
    rw [if_neg hne]
    rfl
  · split <;> rfl

theorem length_flatMap_plainLower (t : Text) :
    (t.flatMap plainLower).length = t.length + t.count dottedCapital := by
  induction t with
  | nil => rfl
  | cons c t ih =>
      rw [List.flatMap_cons, List.length_append, ih, length_plainLower, List.length_cons,
        List.count_cons]
      simp only [beq_iff_eq]
      omega

theorem plainLower_capitalSigma : plainLower 'Σ' = ['σ'] := by decide

/-- Up to its sigmas a text is lowered one character at a time. -/
theorem map_commonSigma_lowerAfter (cased : Bool) (t : Text) :
    (lowerAfter cased t).map commonSigma = t.flatMap plainLower := by
  induction t generalizing cased with
  | nil => rfl
  | cons c t ih =>
      rw [lowerAfter, List.flatMap_cons]
      split
      · rename_i hsigma
        rw [List.map_cons, ih, hsigma, plainLower_capitalSigma]
        split <;> rfl
      · rw [List.map_append, ih]
        rfl

theorem isPrefixOf_map_commonSigma {needle : Text} (hcommon : 'σ' ∉ needle) (hfinal : 'ς' ∉ needle)
    (t : Text) : needle.isPrefixOf (t.map commonSigma) = needle.isPrefixOf t := by
  induction needle generalizing t with
  | nil => rfl
  | cons d needle ih =>
      rw [List.mem_cons, not_or] at hcommon hfinal
      cases t with
      | nil => rfl
      | cons c t =>
          have hhead : (d == commonSigma c) = (d == c) := by
            rw [commonSigma]
            split
            · rename_i hc
              simp [hc, Ne.symm hcommon.1, Ne.symm hfinal.1]
            · rfl
          rw [List.map_cons, List.isPrefixOf_cons_cons, List.isPrefixOf_cons_cons, hhead,
            ih hcommon.2 hfinal.2]

theorem position?_map_commonSigma {needle : Text} (hcommon : 'σ' ∉ needle) (hfinal : 'ς' ∉ needle)
    (t : Text) : position? (t.map commonSigma) needle = t.position? needle := by
  induction t with
  | nil => rfl
  | cons c t ih =>
      have hhere := isPrefixOf_map_commonSigma hcommon hfinal (c :: t)
      rw [List.map_cons] at hhere ⊢
      rw [position?, position?, hhere, ih]

/-- What has no sigma stands in a lowered text where it stands in the text that is lowered one
character at a time. -/
theorem position?_lower {needle : Text} (hcommon : 'σ' ∉ needle) (hfinal : 'ς' ∉ needle)
    (t : Text) : t.lower.position? needle = position? (t.flatMap plainLower) needle := by
  rw [← position?_map_commonSigma hcommon hfinal, lower, map_commonSigma_lowerAfter]

theorem plainLower_dottedCapital : plainLower dottedCapital = ['i', '\u0307'] := by decide

theorem exists_plainLower_eq_singleton {c : Char} (h : c ≠ dottedCapital) :
    ∃ d, plainLower c = [d] :=
  List.length_eq_one_iff.mp (by rw [length_plainLower, if_neg h])

theorem map_commonSigma_eq_self {t : Text} (hfinal : 'ς' ∉ t) : t.map commonSigma = t := by
  have hsame : ∀ c ∈ t, commonSigma c = id c := by
    intro c hc
    refine if_neg ?_
    rintro rfl
    exact hfinal hc
  rw [List.map_congr_left hsame, List.map_id]

/-- A text is lowered to something without sigmas, one character at a time. -/
theorem lower_eq_iff {t needle : Text} (hcommon : 'σ' ∉ needle) (hfinal : 'ς' ∉ needle) :
    t.lower = needle ↔ t.flatMap plainLower = needle := by
  rw [← map_commonSigma_lowerAfter false]
  constructor
  · rintro rfl
    exact map_commonSigma_eq_self hfinal
  · rintro rfl
    refine (map_commonSigma_eq_self fun hmem => hcommon ?_).symm
    exact List.mem_map.mpr ⟨'ς', hmem, rfl⟩

variable {needle : Text}

/-- A lowered text begins with the lowered beginnings of the text, and with parts of what the dotted
letter is lowered to. -/
theorem exists_prefix_of_prefix_flatMap (hi : 'i' ∉ needle) {t : Text}
    (h : needle <+: t.flatMap plainLower) :
    ∃ stretch, stretch <+: t ∧ stretch.flatMap plainLower = needle := by
  induction t generalizing needle with
  | nil => exact ⟨[], List.prefix_rfl, (List.prefix_nil.mp h).symm⟩
  | cons c t ih =>
      cases needle with
      | nil => exact ⟨[], List.nil_prefix, rfl⟩
      | cons d needle =>
          rw [List.flatMap_cons] at h
          by_cases hc : c = dottedCapital
          · rw [hc, plainLower_dottedCapital] at h
            obtain ⟨rfl, -⟩ := List.cons_prefix_cons.mp h
            exact absurd List.mem_cons_self hi
          · obtain ⟨e, he⟩ := exists_plainLower_eq_singleton hc
            rw [he] at h
            obtain ⟨rfl, hrest⟩ := List.cons_prefix_cons.mp h
            have hi : 'i' ∉ needle := fun hmem => hi (List.mem_cons_of_mem d hmem)
            obtain ⟨stretch, hstretch, rfl⟩ := ih hi hrest
            exact ⟨c :: stretch, List.cons_prefix_cons.mpr ⟨rfl, hstretch⟩, by simp [he]⟩

theorem exists_isInfix_of_isInfix_flatMap (hi : 'i' ∉ needle) (hdot : '\u0307' ∉ needle)
    {t : Text} (h : needle <:+: t.flatMap plainLower) :
    ∃ stretch, stretch <:+: t ∧ stretch.flatMap plainLower = needle := by
  induction t with
  | nil => exact ⟨[], List.infix_rfl, (List.infix_nil.mp h).symm⟩
  | cons c t ih =>
      rw [List.flatMap_cons] at h
      by_cases hprefix : needle <+: (c :: t).flatMap plainLower
      · obtain ⟨stretch, hstretch, hneedle⟩ := exists_prefix_of_prefix_flatMap hi hprefix
        exact ⟨stretch, hstretch.isInfix, hneedle⟩
      · have hrest : needle <:+: t.flatMap plainLower := by
          rw [List.flatMap_cons] at hprefix
          by_cases hc : c = dottedCapital
          · rw [hc, plainLower_dottedCapital] at h hprefix
            have hdotted := (List.infix_cons_iff.mp h).resolve_left hprefix
            refine (List.infix_cons_iff.mp hdotted).resolve_left fun hbegins => ?_
            cases needle with
            | nil => exact hprefix List.nil_prefix
            | cons d needle =>
                obtain ⟨rfl, -⟩ := List.cons_prefix_cons.mp hbegins
                exact hdot List.mem_cons_self
          · obtain ⟨d, hd⟩ := exists_plainLower_eq_singleton hc
            rw [hd] at h hprefix
            exact (List.infix_cons_iff.mp h).resolve_left hprefix
        obtain ⟨stretch, hstretch, hneedle⟩ := ih hrest
        exact ⟨stretch, List.infix_cons hstretch, hneedle⟩

/-- What has no sigma and nothing of the dotted letter stands in a lowered text if and only if a
stretch of the text is lowered to it. -/
theorem isInfix_lower_iff (hcommon : 'σ' ∉ needle) (hfinal : 'ς' ∉ needle) (hi : 'i' ∉ needle)
    (hdot : '\u0307' ∉ needle) (t : Text) :
    needle <:+: t.lower ↔ ∃ stretch : Text, stretch <:+: t ∧ stretch.lower = needle := by
  have hplain : needle <:+: t.lower ↔ needle <:+: t.flatMap plainLower := by
    rw [← not_iff_not, ← position?_eq_none_iff, ← position?_eq_none_iff,
      position?_lower hcommon hfinal]
  simp only [hplain, lower_eq_iff hcommon hfinal]
  constructor
  · exact exists_isInfix_of_isInfix_flatMap hi hdot
  · rintro ⟨stretch, ⟨before, after, rfl⟩, rfl⟩
    exact ⟨before.flatMap plainLower, after.flatMap plainLower, by simp⟩

end LinkAudit.Text
