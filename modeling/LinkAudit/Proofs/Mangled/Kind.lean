import LinkAudit.Mangled.Kind
import LinkAudit.Proofs.Text.Trim
import Mathlib.Data.List.Basic

/-!
Kind codes of suffixes. A counter is dropped from the end of a suffix, also before a line feed, and
then the terminators in front of it. Main statement: a suffix without a counter has the kind code of
the suffix with any number of terminators and any counter behind it, which is the longest stretch of
upper-case letters before its own terminators, or everything before them if there is no such letter.
-/

namespace LinkAudit.Mangled

open Text (IsTail)

/-- Whether the text is a dot with digits behind it, of any script. -/
def IsCopyCounter (counter : Text) : Prop :=
  ∃ digits, digits ≠ [] ∧ (∀ c ∈ digits, Text.isDecimal c = true) ∧ counter = '.' :: digits

/-- Whether the suffix has a counter at its end or before a line feed at its end. -/
def EndsInCopyCounter (suffix : Text) : Prop :=
  ∃ before counter, IsCopyCounter counter ∧
    (suffix = before ++ counter ∨ suffix = before ++ counter ++ ['\n'])

variable {suffix before counter : Text}

/-! Counters. -/

theorem dropCounterAtEnd_append (h : IsCopyCounter counter) (before : Text) :
    dropCounterAtEnd (before ++ counter) = before := by
  obtain ⟨digits, hne, hdigits, rfl⟩ := h
  have htail : IsTail Text.isDecimal (before ++ ['.']) digits := by
    refine ⟨hdigits, ?_⟩
    rw [List.getLast?_concat]
    simp only [Option.mem_def, Option.some.injEq, forall_eq']
    decide
  rw [List.append_cons, dropCounterAtEnd, htail.takeWhile_reverse, htail.dropWhile_reverse,
    List.reverse_concat]
  cases hreverse : digits.reverse with
  | nil => exact absurd (List.reverse_eq_nil_iff.mp hreverse) hne
  | cons c rest => exact List.reverse_reverse before

theorem dropCounterAtEnd_eq_self
    (h : ∀ before counter, IsCopyCounter counter → suffix ≠ before ++ counter) :
    dropCounterAtEnd suffix = suffix := by
  obtain ⟨before, digits, rfl, htail⟩ := Text.exists_isTail Text.isDecimal suffix
  rw [dropCounterAtEnd, htail.takeWhile_reverse, htail.dropWhile_reverse]
  split
  · rename_i last rest front hdigits hbefore
    -- what stands in front of the digits ends in a dot, so that they are a counter
    have hcounter : IsCopyCounter ('.' :: digits) := by
      refine ⟨digits, ?_, htail.inside, rfl⟩
      rintro rfl
      cases hdigits
    refine absurd ?_ (h front.reverse _ hcounter)
    rw [List.append_cons, ← List.reverse_cons, ← hbefore, List.reverse_reverse]
  · rfl

theorem IsCopyCounter.getLast?_ne_newline (h : IsCopyCounter counter) (before : Text) :
    (before ++ counter).getLast? ≠ some '\n' := by
  obtain ⟨digits, hne, hdigits, rfl⟩ := h
  rw [List.getLast?_append_of_ne_nil _ (List.cons_ne_nil _ _), List.getLast?_cons_of_ne_nil hne]
  intro hlast
  exact absurd (hdigits '\n' (List.mem_of_getLast? hlast)) (by decide)

theorem dropCounter_append (h : IsCopyCounter counter) (before : Text) :
    dropCounter (before ++ counter) = before := by
  rw [dropCounter, if_neg (h.getLast?_ne_newline before), dropCounterAtEnd_append h]

theorem dropCounter_append_newline (h : IsCopyCounter counter) (before : Text) :
    dropCounter (before ++ counter ++ ['\n']) = before ++ ['\n'] := by
  rw [dropCounter, if_pos List.getLast?_concat, List.dropLast_concat, dropCounterAtEnd_append h]

/-- Just the suffixes without a counter are left as they are. -/
theorem dropCounter_eq_self_iff : dropCounter suffix = suffix ↔ ¬EndsInCopyCounter suffix := by
  constructor
  · rintro hself ⟨before, counter, hcounter, rfl | rfl⟩
    · rw [dropCounter_append hcounter, List.self_eq_append_right] at hself
      obtain ⟨digits, -, -, rfl⟩ := hcounter
      cases hself
    · rw [dropCounter_append_newline hcounter, List.append_left_inj,
        List.self_eq_append_right] at hself
      obtain ⟨digits, -, -, rfl⟩ := hcounter
      cases hself
  · intro hnone
    rw [dropCounter]
    split
    · rename_i hlast
      have hwhole := List.dropLast_append_getLast? _ hlast
      rw [dropCounterAtEnd_eq_self, hwhole]
      intro before counter hcounter heq
      refine hnone ⟨before, counter, hcounter, .inr ?_⟩
      rw [← heq, hwhole]
    · apply dropCounterAtEnd_eq_self
      intro before counter hcounter heq
      exact hnone ⟨before, counter, hcounter, .inl heq⟩

/-- What stands behind a suffix without a counter: terminators, and a counter or nothing. -/
theorem dropCounter_append_terminators (hsuffix : ¬EndsInCopyCounter suffix) (n : Nat)
    (hcounter : counter = [] ∨ IsCopyCounter counter) :
    dropCounter (suffix ++ List.replicate n terminator ++ counter) =
      suffix ++ List.replicate n terminator := by
  rcases hcounter with rfl | hcounter
  · rw [List.append_nil]
    cases n with
    | zero => rwa [List.replicate_zero, List.append_nil, dropCounter_eq_self_iff]
    | succ n =>
        rw [List.replicate_succ', ← List.append_assoc, dropCounter, List.getLast?_concat,
          if_neg (by decide)]
        apply dropCounterAtEnd_eq_self
        rintro before - ⟨digits, hne, hdigits, rfl⟩ heq
        -- a counter ends in a digit, and the terminator is none
        have hlast := congrArg List.getLast? heq
        rw [List.getLast?_concat, List.getLast?_append_of_ne_nil _ (List.cons_ne_nil _ _),
          List.getLast?_cons_of_ne_nil hne] at hlast
        exact absurd (hdigits _ (List.mem_of_getLast? hlast.symm)) (by decide)
  · exact dropCounter_append hcounter _

/-! Codes. -/

/-- Whether the suffix consists of a front, upper-case letters and terminators, with as many
terminators as it ends in and, before them, as many upper-case letters as there are. -/
structure IsKindSplit (suffix front code : Text) (terminators : Nat) : Prop where
  whole : front ++ code ++ List.replicate terminators terminator = suffix
  letters : IsTail Text.isUpper front code
  unended : (front ++ code).getLast? ≠ some terminator

theorem exists_isKindSplit (suffix : Text) : ∃ front code n, IsKindSplit suffix front code n := by
  obtain ⟨body, ends, hwhole, hends⟩ := Text.exists_isTail (· = terminator) suffix
  obtain ⟨front, code, rfl, hcode⟩ := Text.exists_isTail Text.isUpper body
  have hreplicate : ends = List.replicate ends.length terminator :=
    List.eq_replicate_of_mem fun c hc => of_decide_eq_true (hends.inside c hc)
  refine ⟨front, code, ends.length, hreplicate ▸ hwhole, hcode, ?_⟩
  intro hlast
  exact of_decide_eq_false (hends.begins terminator hlast) rfl

theorem upperTail_append {front code : Text} (h : IsTail Text.isUpper front code) :
    upperTail (front ++ code) = if code = [] then front else code := by
  rw [upperTail, h.takeWhile_reverse, List.reverse_reverse]
  cases code with
  | nil => rw [if_pos rfl, List.append_nil]; rfl
  | cons c rest => rfl

theorem trimEnd_eq_of_isKindSplit {front code : Text} {n : Nat}
    (h : IsKindSplit suffix front code n) :
    suffix.trimEnd (· = terminator) = front ++ code := by
  rw [← h.whole, Text.trimEnd_append_replicate (by simp), Text.trimEnd_eq_self]
  intro c hc
  rw [decide_eq_false_iff_not]
  rintro rfl
  exact h.unended hc

/-- Terminators and a counter behind a suffix that has no counter of its own do not change its kind
code. The code is the longest stretch of upper-case letters that stands at the end of the suffix or
before the terminators there; without such a letter it is all that stands before them. -/
theorem kindCode_append_counter (hsuffix : ¬EndsInCopyCounter suffix) :
    (∃ front code n, IsKindSplit suffix front code n) ∧
      ∀ front code n, IsKindSplit suffix front code n →
        kindCode suffix = (if code = [] then front else code) ∧
          ∀ (k : Nat) (counter : Text), counter = [] ∨ IsCopyCounter counter →
            kindCode (suffix ++ List.replicate k terminator ++ counter) = kindCode suffix := by
  refine ⟨exists_isKindSplit suffix, fun front code n hsplit => ?_⟩
  have hcode : kindCode suffix = if code = [] then front else code := by
    rw [kindCode, dropCounter_eq_self_iff.mpr hsuffix, trimEnd_eq_of_isKindSplit hsplit,
      upperTail_append hsplit.letters]
  refine ⟨hcode, fun k counter hcounter => ?_⟩
  rw [kindCode, dropCounter_append_terminators hsuffix k hcounter,
    Text.trimEnd_append_replicate (by simp), kindCode, dropCounter_eq_self_iff.mpr hsuffix]

/-- The digits of a counter may be of any script. -/
theorem kindCode_append_counter_arabicDigits :
    ¬EndsInCopyCounter "yTFZZ".toList ∧ IsCopyCounter ['.', '\u0661', '\u0662'] ∧
      kindCode "yTFZZ".toList = "TF".toList ∧
      kindCode ("yTFZZZ".toList ++ ['.', '\u0661', '\u0662']) = kindCode "yTFZZ".toList := by
  have hsuffix : ¬EndsInCopyCounter "yTFZZ".toList := dropCounter_eq_self_iff.mp (by decide +kernel)
  have hdigits : ∀ c ∈ ['\u0661', '\u0662'], Text.isDecimal c = true := by
    rw [List.forall_mem_cons, List.forall_mem_singleton]
    decide +kernel
  have hcounter : IsCopyCounter ['.', '\u0661', '\u0662'] := ⟨_, by decide, hdigits, rfl⟩
  have hsplit : IsKindSplit "yTFZZ".toList ['y'] ['T', 'F'] 2 := by
    refine ⟨rfl, ⟨?_, ?_⟩, by decide⟩
    · rw [List.forall_mem_cons, List.forall_mem_singleton]
      decide
    · intro c hc
      cases hc
      decide
  obtain ⟨-, hcode⟩ := kindCode_append_counter hsuffix
  obtain ⟨hkind, hbehind⟩ := hcode _ _ _ hsplit
  exact ⟨hsuffix, hcounter, hkind, hbehind 1 _ (.inr hcounter)⟩

end LinkAudit.Mangled
