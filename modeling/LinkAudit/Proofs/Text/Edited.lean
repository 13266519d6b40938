import LinkAudit.Text.Basic
import Mathlib.Data.List.Basic

/-!
Texts in which some stretches were written anew, in one pass from the left. Main statements: such a
text is no longer than the text it came from if no stretch grows, it is the same text if no stretch
that would be written anew stands in it, and what no such stretch can overlap stays in it. A
substitution makes a text of this kind, and one of shorter words makes a shorter text wherever it
finds one.
-/

namespace LinkAudit.Text

/-- Whether the second text is the first one with some of its stretches written anew, each as the
relation allows. -/
inductive Edited (edit : Text → Text → Prop) : Text → Text → Prop
  | done : Edited edit [] []
  | keep (c : Char) {t t' : Text} : Edited edit t t' → Edited edit (c :: t) (c :: t')
  | write {old fresh t t' : Text} : edit old fresh → Edited edit t t' →
      Edited edit (old ++ t) (fresh ++ t')

/-- Whether an occurrence of the first text never overlaps one of the second: neither does it begin
in front and reach inside, nor does it begin inside. -/
structure IsClearOf (old kept : Text) : Prop where
  reaches : ∀ {before inside : Text}, before ≠ [] → inside ≠ [] → before ++ inside = old →
    ¬inside <+: kept ∧ ¬kept <+: inside
  begins : ∀ {inside : Text}, inside ≠ [] → inside <:+ kept → ¬old <+: inside ∧ ¬inside <+: old

variable {edit : Text → Text → Prop} {t t' kept old fresh : Text}

namespace Edited

theorem length_le (h : Edited edit t t')
    (hshorter : ∀ old fresh, edit old fresh → fresh.length ≤ old.length) :
    t'.length ≤ t.length := by
  induction h with
  | done => exact Nat.le_refl _
  | keep c _ ih => exact Nat.succ_le_succ ih
  | write hedit _ ih =>
      rw [List.length_append, List.length_append]
      exact Nat.add_le_add (hshorter _ _ hedit) ih

theorem eq_self (h : Edited edit t t') (hnone : ∀ old fresh, edit old fresh → ¬old <:+: t) :
    t' = t := by
  induction h with
  | done => rfl
  | @keep c t t' _ ih =>
      have hrest : ∀ old fresh, edit old fresh → ¬old <:+: t := fun old fresh hedit hin =>
        hnone old fresh hedit (hin.trans (List.suffix_cons c t).isInfix)
      rw [ih hrest]
  | @write old fresh t t' hedit _ _ =>
      exact absurd (List.prefix_append old t).isInfix (hnone old fresh hedit)

/-- What stands in front stays if nothing that is written anew begins in it. -/
theorem exists_append {inside after : Text} (h : Edited edit (inside ++ after) t')
    (hbegins : ∀ old fresh, edit old fresh → ∀ part, part ≠ [] → part <:+ inside →
      ¬old <+: part ∧ ¬part <+: old) : ∃ after', t' = inside ++ after' := by
  induction inside generalizing t' with
  | nil => exact ⟨t', rfl⟩
  | cons c inside ih =>
      generalize hwhole : c :: inside ++ after = whole at h
      cases h with
      | done => cases hwhole
      | keep d h =>
          obtain ⟨rfl, rfl⟩ := List.cons.inj hwhole
          obtain ⟨after', rfl⟩ := ih h fun old fresh hedit part hne hsuffix =>
            hbegins old fresh hedit part hne (hsuffix.trans (List.suffix_cons c inside))
          exact ⟨after', rfl⟩
      | write hedit _ =>
          obtain ⟨hold, hinside⟩ :=
            hbegins _ _ hedit (c :: inside) (List.cons_ne_nil c inside) List.suffix_rfl
          rcases List.prefix_or_prefix_of_prefix (List.prefix_append _ _)
            (hwhole ▸ List.prefix_append (c :: inside) after) with hfront | hfront
          · exact absurd hfront hold
          · exact absurd hfront hinside

/-- What no stretch that is written anew overlaps stays. -/
theorem isInfix (h : Edited edit t t') (hclear : ∀ old fresh, edit old fresh → IsClearOf old kept)
    (hkept : kept ≠ []) (hin : kept <:+: t) : kept <:+: t' := by
  obtain ⟨before, after, rfl⟩ := hin
  rw [List.append_assoc] at h
  generalize hwhole : before ++ (kept ++ after) = whole at h
  -- the stretches are passed one at a time until the kept text is in front
  induction h generalizing before with
  | done => exact absurd (List.append_eq_nil_iff.mp (List.append_eq_nil_iff.mp hwhole).2).1 hkept
  | @keep c t t' h ih =>
      cases before with
      | cons d before =>
          obtain ⟨-, rfl⟩ := List.cons.inj hwhole
          exact (ih before rfl).trans (List.suffix_cons c t').isInfix
      | nil =>
          have hfront : Edited edit (kept ++ after) (c :: t') := hwhole ▸ h.keep c
          obtain ⟨after', heq⟩ := hfront.exists_append
            fun old fresh hedit part hne hsuffix => (hclear old fresh hedit).begins hne hsuffix
          rw [heq]
          exact (List.prefix_append kept after').isInfix
  | @write old fresh t t' hedit h ih =>
      have hbehind {left : Text} (heq : left ++ (kept ++ after) = t) : kept <:+: fresh ++ t' :=
        (ih left heq).trans (List.suffix_append fresh t').isInfix
      rcases List.append_eq_append_iff.mp hwhole with ⟨inside, hold, hrest⟩ | ⟨left, -, hrest⟩
      · by_cases hinside : inside = []
        · rw [hinside, List.nil_append] at hrest
          exact @hbehind [] hrest
        · have hclearOld := hclear old fresh hedit
          have hcomparable := List.prefix_or_prefix_of_prefix
            (hrest ▸ List.prefix_append inside t) (List.prefix_append kept after)
          exfalso
          by_cases hbefore : before = []
          · rw [hbefore, List.nil_append] at hold
            obtain ⟨hin, hout⟩ := hclearOld.begins hkept List.suffix_rfl
            rw [hold] at hin hout
            exact hcomparable.elim hin hout
          · obtain ⟨hin, hout⟩ := hclearOld.reaches hbefore hinside hold.symm
            exact hcomparable.elim hin hout
      · exact hbehind hrest.symm

end Edited

/-- What has neither the first nor the last character of a text, and does not stand in it, never
overlaps it. -/
theorem isClearOf_of_not_isInfix {first last : Char} {inner : Text} (hfirst : first ∉ old)
    (hlast : last ∉ old) (hin : ¬old <:+: first :: (inner ++ [last])) :
    IsClearOf old (first :: (inner ++ [last])) where
  reaches {before inside} _ hne hold := by
    obtain ⟨c, inside, rfl⟩ := List.exists_cons_of_ne_nil hne
    have hc : c ∈ old := hold ▸ List.mem_append_right before List.mem_cons_self
    constructor
    · intro hfront
      exact hfirst ((List.cons_prefix_cons.mp hfront).1 ▸ hc)
    · intro hfront
      exact hfirst ((List.cons_prefix_cons.mp hfront).1 ▸ hc)
  begins {inside} hne hsuffix := by
    constructor
    · exact fun hfront => hin (hfront.isInfix.trans hsuffix.isInfix)
    · intro hfront
      have hends : inside <:+ first :: inner ++ [last] := hsuffix
      rcases List.suffix_concat_iff.mp hends with hnil | ⟨left, rfl, -⟩
      · exact hne hnil
      · exact hlast (hfront.subset (by simp))

theorem eq_of_concat_isPrefix {a b : Text} {last : Char} (hlast : last ∉ b)
    (h : a ++ [last] <+: b ++ [last]) : a = b := by
  rcases List.prefix_concat_iff.mp h with heq | hinside
  · exact List.append_cancel_right heq
  · exact absurd (hinside.subset (by simp)) hlast

/-- Two texts between the same brackets, with no bracket inside, do not overlap unless they are
equal. -/
theorem isClearOf_of_ne {first last : Char} {core inner : Text} (hbrackets : first ≠ last)
    (hcore : first ∉ core ∧ last ∉ core) (hinner : first ∉ inner ∧ last ∉ inner)
    (hne : core ≠ inner) : IsClearOf (first :: (core ++ [last])) (first :: (inner ++ [last])) where
  reaches {before inside} hbefore hinside hold := by
    obtain ⟨d, before, rfl⟩ := List.exists_cons_of_ne_nil hbefore
    obtain ⟨c, inside, rfl⟩ := List.exists_cons_of_ne_nil hinside
    have hc : c ≠ first := by
      rintro rfl
      have hmem : c ∈ core ++ [last] := (List.cons.inj hold).2 ▸ by simp
      simp [hcore.1, hbrackets] at hmem
    constructor
    · exact fun hfront => hc (List.cons_prefix_cons.mp hfront).1
    · exact fun hfront => hc (List.cons_prefix_cons.mp hfront).1.symm
  begins {inside} hinside hsuffix := by
    rcases List.suffix_cons_iff.mp hsuffix with rfl | hbehind
    · constructor
      · intro hfront
        exact hne (eq_of_concat_isPrefix hinner.2 (List.cons_prefix_cons.mp hfront).2)
      · intro hfront
        exact hne (eq_of_concat_isPrefix hcore.2 (List.cons_prefix_cons.mp hfront).2).symm
    · obtain ⟨c, inside, rfl⟩ := List.exists_cons_of_ne_nil hinside
      have hc : c ≠ first := by
        rintro rfl
        have hmem : c ∈ inner ++ [last] := hbehind.subset List.mem_cons_self
        simp [hinner.1, hbrackets] at hmem
      constructor
      · exact fun hfront => hc (List.cons_prefix_cons.mp hfront).1.symm
      · exact fun hfront => hc (List.cons_prefix_cons.mp hfront).1

theorem IsClearOf.not_isInfix (h : IsClearOf old kept) (hkept : kept ≠ []) : ¬old <:+: kept := by
  intro hin
  obtain ⟨inside, hfront, hsuffix⟩ := List.infix_iff_prefix_suffix.mp hin
  by_cases hinside : inside = []
  · rw [hinside, List.prefix_nil] at hfront
    exact (h.begins hkept List.suffix_rfl).1 (hfront ▸ List.nil_prefix)
  · exact (h.begins hinside hsuffix).1 hfront

theorem edited_substituteFrom {width : Text → Nat}
    (hedit : ∀ here, width here ≠ 0 → width here ≤ here.length ∧ edit (here.take (width here)) fresh)
    (skip : Nat) (t : Text) : Edited edit (t.drop skip) (substituteFrom width fresh skip t) := by
  induction t generalizing skip with
  | nil =>
      rw [List.drop_nil]
      cases skip <;> exact .done
  | cons c rest ih =>
      cases skip with
      | succ skip => exact ih skip
      | zero =>
          rw [substituteFrom, List.drop_zero]
          split
          · exact (ih 0).keep c
          · rename_i n hwidth
            obtain ⟨hle, hold⟩ := hedit (c :: rest) (by simp [hwidth])
            rw [hwidth] at hold
            rw [← List.take_append_drop (n + 1) (c :: rest)]
            exact .write hold (ih n)

/-- Past the first characters, replacing one word by another writes the occurrences of that word
anew. -/
theorem edited_replaceFrom (old fresh : Text) (skip : Nat) (t : Text) :
    Edited (fun old' fresh' => old' = old ∧ fresh' = fresh) (t.drop skip)
      (substituteFrom (fun here => if old.isPrefixOf here then old.length else 0) fresh skip t) := by
  refine edited_substituteFrom (fun here hwidth => ?_) skip t
  split at hwidth
  · rename_i hhere
    have hfront := List.isPrefixOf_iff_prefix.mp hhere
    rw [if_pos hhere]
    exact ⟨hfront.length_le, (List.prefix_iff_eq_take.mp hfront).symm, rfl⟩
  · contradiction

theorem edited_replace (t old fresh : Text) :
    Edited (fun old' fresh' => old' = old ∧ fresh' = fresh) t (t.replace old fresh) :=
  edited_replaceFrom old fresh 0 t

theorem replace_eq_self (h : ¬old <:+: t) (fresh : Text) : t.replace old fresh = t :=
  (edited_replace t old fresh).eq_self fun _ _ hedit => hedit.1 ▸ h

theorem isInfix_replace (hin : kept <:+: t) (hkept : kept ≠ []) (hclear : IsClearOf old kept)
    (fresh : Text) : kept <:+: t.replace old fresh :=
  (edited_replace t old fresh).isInfix (fun _ _ hedit => hedit.1 ▸ hclear) hkept hin

theorem length_replace_le (h : fresh.length ≤ old.length) (t : Text) :
    (t.replace old fresh).length ≤ t.length :=
  (edited_replace t old fresh).length_le fun _ _ hedit => hedit.1 ▸ hedit.2 ▸ h

/-- A shorter word makes the text shorter wherever the longer one stands in it. -/
theorem length_replace_lt (hin : old <:+: t) (hshorter : fresh.length < old.length) :
    (t.replace old fresh).length < t.length := by
  rw [replace, substitute]
  induction t with
  | nil =>
      rw [List.infix_nil.mp hin] at hshorter
      exact absurd hshorter (Nat.not_lt_zero _)
  | cons c rest ih =>
      rw [substituteFrom]
      by_cases hhere : old.isPrefixOf (c :: rest) = true
      · obtain ⟨n, hn⟩ := Nat.exists_eq_add_one_of_ne_zero (Nat.ne_zero_of_lt hshorter)
        have hfits := (List.isPrefixOf_iff_prefix.mp hhere).length_le
        have hrest := (edited_replaceFrom old fresh n rest).length_le fun _ _ hedit =>
          hedit.1 ▸ hedit.2 ▸ Nat.le_of_lt hshorter
        rw [List.length_drop] at hrest
        rw [List.length_cons] at hfits
        have hwidth : (if old.isPrefixOf (c :: rest) then old.length else 0) = n + 1 := by
          rw [if_pos hhere, hn]
        rw [hwidth, List.length_append, List.length_cons]
        omega
      · have hlater := (List.infix_cons_iff.mp hin).resolve_left
          (mt List.isPrefixOf_iff_prefix.mpr hhere)
        rw [if_neg hhere]
        exact Nat.succ_lt_succ (ih hlater)

end LinkAudit.Text
