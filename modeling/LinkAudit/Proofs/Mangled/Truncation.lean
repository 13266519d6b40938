import LinkAudit.Proofs.Mangled.Counter

/-!
Mangled names that are cut off. A cut inside a run leaves the front of the run, and a cut inside a
segment or inside its length ends the reading there: a length that lost digits has nothing behind it
to count. Main statement: of a cut name the same parts are read, only fewer of them, and the lead
and the suffix may be cut.
-/

namespace LinkAudit.Mangled

open Text (IsStretch)

/-- A length ends the reading of a cut text if the cut leaves it too few characters to count. -/
theorem isEnd_take {digits after : Text} (h : IsLength digits after) {k : Nat}
    (hmisfits : lengthValue digits = 0 ∨
      (after.take (k - digits.length)).length < lengthValue digits) :
    IsEnd ((digits ++ after).take k) := by
  rw [List.take_append]
  by_cases hk : k ≤ digits.length
  · -- the cut is in the length or right behind it, and digits alone count nothing
    rw [Nat.sub_eq_zero_of_le hk, List.take_zero, List.append_nil]
    exact isEnd_of_forall_digit fun c hc => h.stretch.inside c (List.mem_of_mem_take hc)
  · have hdigits : digits.take k = digits := List.take_of_length_le (Nat.le_of_not_le hk)
    have hstretch := h.stretch.take k
    rw [hdigits] at hstretch ⊢
    exact .inr ⟨digits, _, rfl, ⟨h.nonempty, hstretch⟩, hmisfits⟩

/-- Where reading ends, it ends as well if less is left. -/
theorem IsEnd.take {rest : Text} (h : IsEnd rest) (k : Nat) : IsEnd (rest.take k) := by
  rcases h with rfl | ⟨digits, after, rfl, hlength, hmisfits⟩
  · rw [List.take_nil]
    exact .inl rfl
  · apply isEnd_take hlength
    refine hmisfits.imp_right fun hshort => ?_
    exact Nat.lt_of_le_of_lt (List.length_take_le' _ _) hshort

/-- Whether what is read of the first text is the front of what is read of the second. -/
structure ReadsFront (cut whole : Text) : Prop where
  segments : segmentsIn cut <+: segmentsIn whole
  suffix : suffixIn cut <+: suffixIn whole

theorem ReadsFront.of_isEnd {cut : Text} (h : IsEnd cut) (whole : Text) : ReadsFront cut whole := by
  obtain ⟨hsegments, hsuffix⟩ := segmentsIn_suffixIn_of_isEnd h
  constructor
  · rw [hsegments]
    exact List.nil_prefix
  · rw [hsuffix]
    exact List.nil_prefix

/-- Of a length and its segment a cut leaves both, or nothing that is read. -/
theorem readsFront_take_counted {digits text after : Text}
    (hstands : (Token.counted digits text).StandsBefore after)
    (ih : ∀ j, ReadsFront (after.take j) after) (k : Nat) :
    ReadsFront ((digits ++ (text ++ after)).take k) (digits ++ (text ++ after)) := by
  obtain ⟨hlength, hpositive, hcount⟩ := hstands
  by_cases hk : digits.length + text.length ≤ k
  · obtain ⟨j, rfl⟩ := Nat.exists_eq_add_of_le hk
    have htext : text ≠ [] := List.length_pos_iff.mp (hcount ▸ hpositive)
    obtain ⟨hsegments, hsuffix⟩ := segmentsIn_suffixIn_counted hlength hpositive hcount
    obtain ⟨hsegments', hsuffix'⟩ :=
      segmentsIn_suffixIn_counted (hlength.of_append htext (after.take j)) hpositive hcount
    rw [Nat.add_assoc, List.take_length_add_append, List.take_length_add_append]
    constructor
    · rw [hsegments, hsegments']
      exact List.cons_prefix_cons.mpr ⟨rfl, (ih j).segments⟩
    · rw [hsuffix, hsuffix']
      exact (ih j).suffix
  · refine .of_isEnd (isEnd_take hlength (.inr ?_)) _
    rw [List.length_take]
    omega

/-- Of a run a cut leaves the front. -/
theorem readsFront_take_run {text after : Text} (hne : text ≠ [])
    (hrun : ∀ c ∈ text, c.isDigit = false) (ih : ∀ j, ReadsFront (after.take j) after) (k : Nat) :
    ReadsFront ((text ++ after).take k) (text ++ after) := by
  obtain ⟨hsegments, hsuffix⟩ := @segmentsIn_suffixIn_run_append text after hne hrun
  rcases Nat.le_total k text.length with hk | hk
  · have hfront : ∀ c ∈ text.take k, c.isDigit = false :=
      fun c hc => hrun c (List.mem_of_mem_take hc)
    obtain ⟨hsegments', hsuffix'⟩ := segmentsIn_suffixIn_run hfront
    rw [List.take_append_of_le_length hk]
    constructor
    · rw [hsegments']
      exact List.nil_prefix
    · rw [hsuffix, hsuffix']
      exact (List.take_prefix k text).trans (List.prefix_append text _)
  · obtain ⟨j, rfl⟩ := Nat.exists_eq_add_of_le hk
    obtain ⟨hsegments', hsuffix'⟩ := @segmentsIn_suffixIn_run_append text (after.take j) hne hrun
    rw [List.take_length_add_append]
    constructor
    · rw [hsegments, hsegments']
      exact (ih j).segments
    · rw [hsuffix, hsuffix']
      exact (List.prefix_append_right_inj text).mpr (ih j).suffix

theorem readsFront_take {rest : Text} {tokens : List Token} (h : AreTokens rest tokens) (k : Nat) :
    ReadsFront ((written tokens ++ rest).take k) (written tokens ++ rest) := by
  -- what stands behind the first token is cut in turn
  induction tokens generalizing k with
  | nil => exact .of_isEnd (IsEnd.take h k) _
  | cons token tokens ih =>
      obtain ⟨hstands, htokens⟩ := h
      rw [written_cons, List.append_assoc]
      cases token with
      | counted digits text =>
          rw [Token.written, List.append_assoc]
          exact readsFront_take_counted hstands (ih htokens) k
      | run text =>
          have hrun : ∀ c ∈ text, c.isDigit = false := fun c hc => by
            simpa using hstands.2.inside c hc
          exact readsFront_take_run hstands.1 hrun (ih htokens) k

/-- Of a name that is cut off the lead is read up to the cut, and of the segments and of the suffix
the front: no part is read that the whole name does not have in its place. -/
theorem ofText_take (name : Text) (k : Nat) :
    (ofText (name.take k)).lead = (ofText name).lead.take k ∧
      (ofText (name.take k)).segments <+: (ofText name).segments ∧
      (ofText (name.take k)).suffix.getD [] <+: (ofText name).suffix.getD [] := by
  obtain ⟨s, hs⟩ := exists_spells name
  have hfront := readsFront_take hs.tokens (k - s.lead.length)
  rw [← hs.whole, ofText_of_isStretch hs.lead, List.take_append,
    ofText_of_isStretch (hs.lead.take k), Text.getD_nonempty?, Text.getD_nonempty?]
  exact ⟨rfl, hfront.segments, hfront.suffix⟩

end LinkAudit.Mangled
