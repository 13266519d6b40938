import LinkAudit.Proofs.Text.Number
import LinkAudit.Proofs.Text.Search
import LinkAudit.Proofs.Text.Stretch
import LinkAudit.Text.Case
import Mathlib.Data.List.Induction
import Mathlib.Data.List.TakeWhile

/-!
Texts with a counter behind them, a dot and digits. What does not end in the beginning of a counter
is found in the longer text just where it is found in the text itself, and the letter case of the
text is changed as if the counter were not there.
-/

namespace LinkAudit.Text

structure IsCounter (digits : Text) : Prop where
  nonempty : digits ≠ []
  digit : ∀ c ∈ digits, c.isDigit = true

/-- Whether the text does not end in a dot with digits behind it, if any, nor consist of digits. -/
def isSettled (t : Text) : Bool :=
  match t.reverse.dropWhile Char.isDigit with
  | [] => false
  | c :: _ => c ≠ '.'

variable {needle digits : Text}

/-! Searches. -/

theorem isSettled_of_forall_digit {t : Text} (h : ∀ c ∈ t, c.isDigit = true) :
    isSettled t = false := by
  have hdrop : t.reverse.dropWhile Char.isDigit = [] := by
    rw [List.dropWhile_eq_nil_iff]
    simpa using h
  rw [isSettled, hdrop]

theorem isSettled_append_counter (t : Text) (h : ∀ c ∈ digits, c.isDigit = true) :
    isSettled (t ++ '.' :: digits) = false := by
  have hstretch : IsStretch Char.isDigit digits.reverse ('.' :: t.reverse) :=
    isStretch_before_cons (by simpa using h) (by decide) _
  have hreverse : (t ++ '.' :: digits).reverse = digits.reverse ++ '.' :: t.reverse := by simp
  rw [isSettled, hreverse, hstretch.dropWhile_append]
  simp

theorem ne_nil_of_isSettled (h : isSettled needle = true) : needle ≠ [] := by
  rintro rfl
  cases h

theorem forall_digit_of_isPrefix {t : Text} (h : ∀ c ∈ digits, c.isDigit = true)
    (ht : t <+: digits) : ∀ c ∈ t, c.isDigit = true :=
  fun c hc => h c (ht.subset hc)

theorem eq_nil_of_prefix_counter {t part : Text} (h : ∀ c ∈ digits, c.isDigit = true)
    (hsettled : isSettled (t ++ part) = true) (hpart : part <+: '.' :: digits) : part = [] := by
  rcases List.prefix_cons_iff.mp hpart with hnil | ⟨rest, rfl, hrest⟩
  · exact hnil
  · rw [isSettled_append_counter t (forall_digit_of_isPrefix h hrest)] at hsettled
    cases hsettled

theorem isPrefix_append_counter_iff (hsettled : isSettled needle = true)
    (h : ∀ c ∈ digits, c.isDigit = true) {t : Text} :
    needle <+: t ++ '.' :: digits ↔ needle <+: t := by
  constructor
  · intro hprefix
    rcases List.prefix_or_prefix_of_prefix hprefix (List.prefix_append t _) with hin | ⟨part, rfl⟩
    · exact hin
    · rw [List.prefix_append_right_inj] at hprefix
      obtain rfl := eq_nil_of_prefix_counter h hsettled hprefix
      exact (List.append_nil t).symm ▸ List.prefix_rfl
  · exact List.prefix_append_of_prefix

theorem isInfix_append_counter_iff (hsettled : isSettled needle = true)
    (h : ∀ c ∈ digits, c.isDigit = true) {t : Text} :
    needle <:+: t ++ '.' :: digits ↔ needle <:+: t := by
  rw [List.infix_append_iff]
  constructor
  · rintro (hin | hcounter | ⟨left, right, rfl, hleft, hright⟩)
    · exact hin
    · rcases List.infix_cons_iff.mp hcounter with hhere | hdigits
      · have hnil := eq_nil_of_prefix_counter (t := []) h hsettled hhere
        exact absurd hnil (ne_nil_of_isSettled hsettled)
      · rw [isSettled_of_forall_digit fun c hc => h c (hdigits.subset hc)] at hsettled
        cases hsettled
    · rw [eq_nil_of_prefix_counter h hsettled hright, List.append_nil]
      exact hleft.isInfix
  · exact .inl

theorem not_isInfix_counter (hsettled : isSettled needle = true)
    (h : ∀ c ∈ digits, c.isDigit = true) : ¬needle <:+: '.' :: digits := by
  intro hin
  have hinside := (isInfix_append_counter_iff (t := []) hsettled h).mp hin
  exact ne_nil_of_isSettled hsettled (List.infix_nil.mp hinside)

theorem mentions_append_counter (hsettled : isSettled needle = true)
    (h : ∀ c ∈ digits, c.isDigit = true) (t : Text) :
    (t ++ '.' :: digits).mentions needle = t.mentions needle := by
  rw [Bool.eq_iff_iff, mentions_iff_isInfix, mentions_iff_isInfix,
    isInfix_append_counter_iff hsettled h]

/-- A needle that ends in a dot may also begin where the text ends. -/
theorem mentions_dot_append_counter {t : Text} (hsettled : isSettled needle = true)
    (h : ∀ c ∈ digits, c.isDigit = true) :
    (t ++ '.' :: digits).mentions (needle ++ ['.']) = true ↔
      t.mentions (needle ++ ['.']) = true ∨ needle <:+ t := by
  rw [mentions_iff_isInfix, mentions_iff_isInfix, List.infix_append_iff]
  constructor
  · rintro (hin | hcounter | ⟨left, right, heq, hleft, hright⟩)
    · exact .inl hin
    · have hneedle := (List.prefix_append needle ['.']).isInfix.trans hcounter
      exact absurd hneedle (not_isInfix_counter hsettled h)
    · rcases List.prefix_cons_iff.mp hright with rfl | ⟨rest, rfl, hrest⟩
      · rw [heq, List.append_nil]
        exact .inl hleft.isInfix
      · refine .inr ?_
        cases rest using List.reverseRecOn with
        | nil => rwa [(List.append_inj' heq rfl).1]
        | append_singleton rest c =>
            have hlast := congrArg List.getLast? heq
            have hdigit := h c (hrest.subset (by simp))
            rw [← List.cons_append, ← List.append_assoc, List.getLast?_concat,
              List.getLast?_concat] at hlast
            rw [← Option.some.inj hlast] at hdigit
            cases hdigit
  · rintro (hin | hends)
    · exact .inl hin
    · exact .inr (.inr ⟨needle, ['.'], rfl, hends, by simp⟩)

theorem isPrefixOf_append_counter (hsettled : isSettled needle = true)
    (h : ∀ c ∈ digits, c.isDigit = true) (t : Text) :
    needle.isPrefixOf (t ++ '.' :: digits) = needle.isPrefixOf t := by
  rw [Bool.eq_iff_iff, List.isPrefixOf_iff_prefix, List.isPrefixOf_iff_prefix,
    isPrefix_append_counter_iff hsettled h]

theorem fromFirst?_append_counter (hsettled : isSettled needle = true)
    (h : ∀ c ∈ digits, c.isDigit = true) (t : Text) :
    (t ++ '.' :: digits).fromFirst? needle = (t.fromFirst? needle).map (· ++ '.' :: digits) := by
  induction t with
  | nil =>
      rw [List.nil_append, fromFirst?_eq_none_iff.mpr (not_isInfix_counter hsettled h)]
      simp [fromFirst?, ne_nil_of_isSettled hsettled]
  | cons c rest ih =>
      have hprefix := isPrefixOf_append_counter hsettled h (c :: rest)
      rw [List.cons_append] at hprefix
      rw [List.cons_append, fromFirst?, fromFirst?, hprefix, ih]
      split <;> rfl

theorem position?_append_counter (hsettled : isSettled needle = true)
    (h : ∀ c ∈ digits, c.isDigit = true) (t : Text) :
    (t ++ '.' :: digits).position? needle = t.position? needle := by
  induction t with
  | nil =>
      rw [List.nil_append, position?_eq_none_iff.mpr (not_isInfix_counter hsettled h)]
      simp [position?, ne_nil_of_isSettled hsettled]
  | cons c rest ih =>
      have hprefix := isPrefixOf_append_counter hsettled h (c :: rest)
      rw [List.cons_append] at hprefix
      rw [List.cons_append, position?, position?, hprefix, ih]

/-! Letter case. -/

theorem caseless_of_isDigit {c : Char} (h : c.isDigit = true) :
    c ≠ 'Σ' ∧ isCaseIgnorable c = false ∧ isCased c = false ∧ lowerChar c = [c] ∧
      upperChar c = [c] := by
  have hdigits : ∀ n < 58, (Char.ofNat n).isDigit = true →
      Char.ofNat n ≠ 'Σ' ∧ isCaseIgnorable (Char.ofNat n) = false ∧
        isCased (Char.ofNat n) = false ∧ lowerChar (Char.ofNat n) = [Char.ofNat n] ∧
        upperChar (Char.ofNat n) = [Char.ofNat n] := by
    decide
  exact forall_digit_of_forall_lt (P := fun c => c ≠ 'Σ' ∧ isCaseIgnorable c = false ∧
    isCased c = false ∧ lowerChar c = [c] ∧ upperChar c = [c]) hdigits h

theorem lowerAfter_digits (h : ∀ c ∈ digits, c.isDigit = true) (cased : Bool) :
    lowerAfter cased digits = digits := by
  induction digits generalizing cased with
  | nil => rfl
  | cons c rest ih =>
      obtain ⟨hc, hrest⟩ := List.forall_mem_cons.mp h
      obtain ⟨hne, -, -, hlower, -⟩ := caseless_of_isDigit hc
      rw [lowerAfter, if_neg hne, hlower, ih hrest]
      rfl

theorem lowerAfter_counter (h : ∀ c ∈ digits, c.isDigit = true) (cased : Bool) :
    lowerAfter cased ('.' :: digits) = '.' :: digits := by
  rw [lowerAfter, if_neg (by decide), lowerAfter_digits h]
  rfl

/-- No cased letter follows in a counter, which is what decides about a capital sigma. -/
theorem casedFollows_append_counter (h : ∀ c ∈ digits, c.isDigit = true) (t : Text) :
    casedFollows (t ++ '.' :: digits) = casedFollows t := by
  have hignored : ('.' :: digits).dropWhile isCaseIgnorable = digits := by
    rw [List.dropWhile_cons_of_pos (by decide)]
    cases digits with
    | nil => rfl
    | cons c rest =>
        obtain ⟨-, hignorable, -⟩ := caseless_of_isDigit (h c List.mem_cons_self)
        exact List.dropWhile_cons_of_neg (by simp [hignorable])
  rw [casedFollows, casedFollows, List.dropWhile_append, hignored]
  cases t.dropWhile isCaseIgnorable with
  | cons c rest => rfl
  | nil => cases digits with
    | nil => rfl
    | cons c rest => exact (caseless_of_isDigit (h c List.mem_cons_self)).2.2.1

theorem lowerAfter_append_counter (h : ∀ c ∈ digits, c.isDigit = true) (cased : Bool) (t : Text) :
    lowerAfter cased (t ++ '.' :: digits) = lowerAfter cased t ++ '.' :: digits := by
  induction t generalizing cased with
  | nil => exact lowerAfter_counter h cased
  | cons c rest ih =>
      rw [List.cons_append, lowerAfter, lowerAfter, ih, casedFollows_append_counter h]
      split <;> simp

theorem lower_append_counter (h : ∀ c ∈ digits, c.isDigit = true) (t : Text) :
    lower (t ++ '.' :: digits) = lower t ++ '.' :: digits :=
  lowerAfter_append_counter h false t

theorem upper_append (a b : Text) : upper (a ++ b) = upper a ++ upper b := List.flatMap_append

theorem upper_counter (h : ∀ c ∈ digits, c.isDigit = true) :
    upper ('.' :: digits) = '.' :: digits := by
  have hdigits : upper digits = digits := by
    induction digits with
    | nil => rfl
    | cons c rest ih =>
        obtain ⟨hc, hrest⟩ := List.forall_mem_cons.mp h
        rw [upper, List.flatMap_cons, (caseless_of_isDigit hc).2.2.2.2]
        exact congrArg (c :: ·) (ih hrest)
  rw [upper, List.flatMap_cons]
  exact congrArg ('.' :: ·) hdigits

end LinkAudit.Text
