import LinkAudit.Proofs.Mangled.Writing
import LinkAudit.Proofs.Text.Counter

/-!
Mangled names with a counter behind them. A name that is read to its end takes the dot of the
counter into its suffix, and the digits are no length of anything, so that the counter does not
stand as one piece at the end of the suffix. A name at whose end a length is left over may find in
the counter the characters that this length still needs.
-/

namespace LinkAudit.Mangled

open Text (IsStretch IsCounter)

/-- Behind a length and a text that ends it, what comes later does not matter. -/
theorem IsLength.of_append {digits text after : Text} (h : IsLength digits (text ++ after))
    (htext : text ≠ []) (more : Text) : IsLength digits (text ++ more) := by
  have hends := h.stretch.ends
  rw [List.head?_append_of_ne_nil _ htext] at hends
  exact ⟨h.nonempty, IsStretch.append ⟨h.stretch.inside, hends⟩ (absurd · htext)⟩

/-- What is read behind the tokens of a spelling does not change them. -/
theorem segmentsIn_suffixIn_written_append {rest : Text} {tokens : List Token}
    (h : AreTokens rest tokens) (after : Text) :
    segmentsIn (written tokens ++ after) = tokens.filterMap Token.segment? ++ segmentsIn after ∧
      suffixIn (written tokens ++ after) =
        (tokens.filterMap Token.run?).flatten ++ suffixIn after := by
  induction tokens with
  | nil => exact ⟨rfl, rfl⟩
  | cons token tokens ih =>
      obtain ⟨hstands, htokens⟩ := h
      obtain ⟨hsegments, hsuffix⟩ := ih htokens
      rw [written_cons, List.append_assoc]
      cases token with
      | counted digits text =>
          obtain ⟨hlength, hpositive, hcount⟩ := hstands
          -- the text behind the length is not empty, so that only it can end the length
          have htext : text ≠ [] := List.length_pos_iff.mp (hcount ▸ hpositive)
          obtain ⟨hsegments', hsuffix'⟩ := segmentsIn_suffixIn_counted
            (hlength.of_append htext (written tokens ++ after)) hpositive hcount
          rw [Token.written, List.append_assoc]
          exact ⟨hsegments'.trans (congrArg (text :: ·) hsegments), hsuffix'.trans hsuffix⟩
      | run text =>
          have hrun : ∀ c ∈ text, c.isDigit = false := fun c hc => by
            simpa using hstands.2.inside c hc
          obtain ⟨hsegments', hsuffix'⟩ :=
            @segmentsIn_suffixIn_run_append text (written tokens ++ after) hstands.1 hrun
          refine ⟨hsegments'.trans hsegments, hsuffix'.trans ?_⟩
          rw [hsuffix, ← List.append_assoc]
          rfl

theorem AreTokens.isEnd {rest : Text} {tokens : List Token} (h : AreTokens rest tokens) :
    IsEnd rest := by
  induction tokens with
  | nil => exact h
  | cons token tokens ih => exact ih h.2

theorem Token.StandsBefore.written_ne_nil {token : Token} {after : Text}
    (h : token.StandsBefore after) : token.written ≠ [] := by
  cases token with
  | counted digits text => exact List.append_ne_nil_of_left_ne_nil h.1.nonempty _
  | run text => exact h.1

/-- Behind a spelled name reading goes on at the rest. -/
theorem ofText_append {s : Spelling} {name : Text} (h : s.Spells name) (hne : s.tokens ≠ [])
    (after : Text) :
    ofText (name ++ after) =
      { lead := s.lead
        segments := s.parts.segments ++ segmentsIn (s.rest ++ after)
        suffix := Text.nonempty? (s.parts.suffix.getD [] ++ suffixIn (s.rest ++ after)) } := by
  have hwritten : written s.tokens ≠ [] := by
    cases htokens : s.tokens with
    | nil => exact absurd htokens hne
    | cons token tokens =>
        have hstands := h.tokens
        rw [htokens] at hstands
        rw [written_cons]
        exact List.append_ne_nil_of_left_ne_nil hstands.1.written_ne_nil _
  have hlead : IsStretch (!·.isDigit) s.lead (written s.tokens ++ (s.rest ++ after)) := by
    have hhead := h.lead.ends
    rw [List.head?_append_of_ne_nil _ hwritten] at hhead
    exact IsStretch.append ⟨h.lead.inside, hhead⟩ (absurd · hwritten)
  have hwhole : name ++ after = s.lead ++ (written s.tokens ++ (s.rest ++ after)) := by
    rw [← h.whole, List.append_assoc, List.append_assoc]
  obtain ⟨hsegments, hsuffix⟩ := segmentsIn_suffixIn_written_append h.tokens (s.rest ++ after)
  rw [hwhole, ofText_of_isStretch hlead, hsegments, hsuffix]
  simp [Spelling.parts]

/-- Digits at the end are a length without anything to count. -/
theorem isEnd_of_forall_digit {digits : Text} (h : ∀ c ∈ digits, c.isDigit = true) :
    IsEnd digits := by
  by_cases hnil : digits = []
  · exact .inl hnil
  · refine .inr ⟨digits, [], List.append_nil _, ⟨hnil, h, by simp⟩, ?_⟩
    rw [List.length_nil]
    exact Nat.eq_zero_or_pos _

/-- The parts that a spelled name has where the length that its reading ended at counts on into the
text behind the name. -/
def Spelling.filledBy (s : Spelling) (after : Text) : Mangled :=
  { s.parts with
    segments := s.parts.segments ++ [(s.rest.dropWhile Char.isDigit ++ after).take
      (lengthValue (s.rest.takeWhile Char.isDigit))] }

section Counter

variable {s : Spelling} {name digits : Text}

/-- A name that is read to its end takes the dot into its suffix. -/
theorem ofText_append_counter_of_read (h : s.Spells name) (hne : s.tokens ≠ [])
    (hrest : s.rest = []) (hdigits : ∀ c ∈ digits, c.isDigit = true) :
    ofText (name ++ '.' :: digits) =
      { s.parts with suffix := some (s.parts.suffix.getD [] ++ ['.']) } := by
  obtain ⟨hsegments, hsuffix⟩ := segmentsIn_suffixIn_of_isEnd (isEnd_of_forall_digit hdigits)
  obtain ⟨hsegments', hsuffix'⟩ :=
    @segmentsIn_suffixIn_run_append ['.'] digits (List.cons_ne_nil _ _) (by simp)
  rw [ofText_append h hne, hrest, List.nil_append, ← List.singleton_append, hsegments', hsuffix',
    hsegments, hsuffix, List.append_nil, List.append_nil, Text.nonempty?_of_ne_nil (by simp)]
  rfl

/-- Nothing that stands behind a name is read if the reading still ends where it ended. -/
theorem ofText_append_of_isEnd (h : s.Spells name) (hne : s.tokens ≠ []) {after : Text}
    (hend : IsEnd (s.rest ++ after)) : ofText (name ++ after) = s.parts := by
  obtain ⟨hsegments, hsuffix⟩ := segmentsIn_suffixIn_of_isEnd hend
  rw [ofText_append h hne, hsegments, hsuffix]
  simp [Spelling.parts]

/-- A length that needs characters of the counter takes them, and the digits that are left count
nothing. -/
theorem items_append_counter {length after : Text}
    (hlength : IsLength length (after ++ '.' :: digits))
    (hshort : after.length < lengthValue length)
    (hfits : lengthValue length ≤ (after ++ '.' :: digits).length)
    (hdigits : ∀ c ∈ digits, c.isDigit = true) :
    items (length ++ (after ++ '.' :: digits)) =
      [.segment ((after ++ '.' :: digits).take (lengthValue length))] := by
  generalize hfilled : (after ++ '.' :: digits).take (lengthValue length) = filled
  generalize hleft : (after ++ '.' :: digits).drop (lengthValue length) = left
  have hcut : filled ++ left = after ++ '.' :: digits := by
    rw [← hfilled, ← hleft, List.take_append_drop]
  have hend : IsEnd left := by
    apply isEnd_of_forall_digit
    intro c hc
    have hsuffix : left = digits.drop (lengthValue length - after.length - 1) := by
      rw [← hleft, List.drop_append, List.drop_of_length_le (by omega), List.nil_append,
        ← Nat.succ_pred_eq_of_pos (n := lengthValue length - after.length) (by omega)]
      rfl
    exact hdigits c (List.mem_of_mem_drop (hsuffix ▸ hc))
  have hcount : filled.length = lengthValue length := by
    rw [← hfilled, List.length_take, Nat.min_eq_left hfits]
  rw [← hcut] at hlength ⊢
  rw [items_counted hlength (Nat.zero_lt_of_lt hshort) hcount, items_of_isEnd hend]

/-- A length that the reading ended at takes what it needs of the counter, unless the reading still
ends there. -/
theorem ofText_append_counter_of_not_isEnd (h : s.Spells name) (hne : s.tokens ≠ [])
    (hrest : s.rest ≠ []) (hdigits : ∀ c ∈ digits, c.isDigit = true)
    (hgoes : ¬IsEnd (s.rest ++ '.' :: digits)) :
    ofText (name ++ '.' :: digits) = s.filledBy ('.' :: digits) := by
  obtain ⟨length, after, hwhole, hlength, hmisfits⟩ := h.tokens.isEnd.resolve_left hrest
  have hlonger : length ++ (after ++ '.' :: digits) = s.rest ++ '.' :: digits := by
    rw [← hwhole, List.append_assoc]
  have hcounter : IsLength length (after ++ '.' :: digits) :=
    ⟨hlength.nonempty, hlength.stretch.append fun _ => by simp⟩
  -- the length does not fit without the counter and fits with it
  have hfits : ¬(lengthValue length = 0 ∨ (after ++ '.' :: digits).length < lengthValue length) :=
    fun hmisfits => hgoes (.inr ⟨length, _, hlonger, hcounter, hmisfits⟩)
  have hread := items_append_counter hcounter (by omega) (by omega) hdigits
  have htake : s.rest.takeWhile Char.isDigit = length := by
    rw [← hwhole, hlength.stretch.takeWhile_append]
  have hdrop : s.rest.dropWhile Char.isDigit = after := by
    rw [← hwhole, hlength.stretch.dropWhile_append]
  rw [ofText_append h hne, Spelling.filledBy, htake, hdrop, segmentsIn, suffixIn, ← hlonger, hread]
  simp [List.filterMap_cons, Item.segment?, Item.run?, Spelling.parts]

end Counter

end LinkAudit.Mangled
