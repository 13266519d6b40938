import LinkAudit.Text.Basic

/-!
Searches in texts. A text mentions what stands in it as one stretch, and the position of a first
occurrence is where the text continues with it. Joined pieces mention what one of the pieces
mentions, as long as the separator is not looked for.
-/

namespace LinkAudit.Text

theorem mentions_iff_isInfix {t needle : Text} : t.mentions needle = true ↔ needle <:+: t := by
  induction t with
  | nil => simp [mentions]
  | cons c rest ih =>
      rw [mentions, Bool.or_eq_true, ih, List.isPrefixOf_iff_prefix, List.infix_cons_iff]

/-- Whatever stands in a text that is mentioned is mentioned. -/
theorem mentions_of_isInfix {t needle part : Text} (hpart : part <:+: needle)
    (h : t.mentions needle = true) : t.mentions part = true :=
  mentions_iff_isInfix.mpr (hpart.trans (mentions_iff_isInfix.mp h))

theorem isPrefix_drop_of_position?_eq_some {t needle : Text} {n : Nat}
    (h : t.position? needle = some n) : needle <+: t.drop n := by
  induction t generalizing n with
  | nil => cases needle with
    | nil => exact List.nil_prefix
    | cons d needle => simp [position?] at h
  | cons c rest ih =>
      rw [position?] at h
      split at h
      · rename_i hhere
        obtain rfl : 0 = n := Option.some.inj h
        exact List.isPrefixOf_iff_prefix.mp hhere
      · obtain ⟨m, hm, rfl⟩ := Option.map_eq_some_iff.mp h
        exact ih hm

theorem position?_eq_none_iff {t needle : Text} : t.position? needle = none ↔ ¬needle <:+: t := by
  induction t with
  | nil => simp [position?]
  | cons c rest ih =>
      rw [position?, List.infix_cons_iff, ← List.isPrefixOf_iff_prefix]
      split <;> simp_all

theorem fromFirst?_eq_none_iff {t needle : Text} :
    t.fromFirst? needle = none ↔ ¬needle <:+: t := by
  induction t with
  | nil => simp [fromFirst?]
  | cons c rest ih =>
      rw [fromFirst?, List.infix_cons_iff, ← List.isPrefixOf_iff_prefix]
      split <;> simp_all

theorem suffix_of_fromFirst?_eq_some {t needle found : Text}
    (h : t.fromFirst? needle = some found) : found <:+ t := by
  induction t with
  | nil =>
      rw [fromFirst?] at h
      split at h
      · obtain rfl := Option.some.inj h
        exact List.suffix_rfl
      · cases h
  | cons c rest ih =>
      rw [fromFirst?] at h
      split at h
      · obtain rfl := Option.some.inj h
        exact List.suffix_rfl
      · exact (ih h).trans (List.suffix_cons c rest)

/-- A text that lacks the first character of what is looked for stands before the first occurrence.
-/
theorem position?_append {t needle : Text} {c : Char} (h : c ∉ t) (after : Text) :
    (t ++ (c :: needle ++ after)).position? (c :: needle) = some t.length := by
  induction t with
  | nil => simp [position?]
  | cons d t ih =>
      rw [List.mem_cons, not_or] at h
      have hhere : ¬(c :: needle).isPrefixOf (d :: (t ++ (c :: needle ++ after))) = true := by
        rw [List.isPrefixOf_iff_prefix, List.cons_prefix_cons]
        exact fun hprefix => h.1 hprefix.1
      rw [List.cons_append, position?, if_neg hhere, ih h.2]
      rfl

theorem position?_of_isPrefix {t needle : Text} (h : needle <+: t) : t.position? needle = some 0 := by
  cases t with
  | nil => simp [position?, List.prefix_nil.mp h]
  | cons c rest => rw [position?, if_pos (List.isPrefixOf_iff_prefix.mpr h)]

/-- What ends in a character that it has nowhere else does not overlap itself: it does not begin in
front of itself and end inside. -/
theorem isPrefix_of_isPrefix_append {t begun after : Text} {c : Char} (hc : c ∉ begun) (hne : t ≠ [])
    (h : begun ++ [c] <+: t ++ (begun ++ [c] ++ after)) : begun ++ [c] <+: t := by
  rcases List.prefix_or_prefix_of_prefix h (List.prefix_append t _) with hin | ⟨rest, hrest⟩
  · exact hin
  · have hsuffix : rest <:+ begun ++ [c] := ⟨t, hrest⟩
    have hshorter : rest.length ≤ begun.length := by
      have hlength := congrArg List.length hrest
      have hpositive := List.length_pos_iff.mpr hne
      simp only [List.length_append, List.length_cons, List.length_nil] at hlength
      omega
    -- what is left of it behind the text lies in front of its last character
    rw [← hrest, List.prefix_append_right_inj, hrest, List.append_assoc] at h
    have hinside := List.prefix_of_prefix_length_le h (List.prefix_append begun _) hshorter
    rcases List.suffix_concat_iff.mp hsuffix with rfl | ⟨left, rfl, -⟩
    · rw [List.append_nil] at hrest
      exact hrest ▸ List.prefix_rfl
    · exact absurd (hinside.subset (by simp)) hc

/-- What ends in a character that it has nowhere else is found right behind a text that does not
have it. -/
theorem position?_append_of_not_isInfix {t begun : Text} {c : Char} (hc : c ∉ begun)
    (h : ¬begun ++ [c] <:+: t) (after : Text) :
    (t ++ (begun ++ [c] ++ after)).position? (begun ++ [c]) = some t.length := by
  induction t with
  | nil => exact position?_of_isPrefix (List.prefix_append _ _)
  | cons d t ih =>
      rw [List.infix_cons_iff, not_or] at h
      have hhere : ¬(begun ++ [c]).isPrefixOf (d :: (t ++ (begun ++ [c] ++ after))) = true := by
        rw [List.isPrefixOf_iff_prefix, ← List.cons_append]
        exact fun hprefix => h.1 (isPrefix_of_isPrefix_append hc (List.cons_ne_nil d t) hprefix)
      rw [List.cons_append, position?, if_neg hhere, ih h.2]
      rfl

theorem mentions_of_position?_eq_some {t needle : Text} {n : Nat}
    (h : t.position? needle = some n) : t.mentions needle = true :=
  mentions_iff_isInfix.mpr
    ((isPrefix_drop_of_position?_eq_some h).isInfix.trans (List.drop_suffix n t).isInfix)

/-- Whether what is looked for begins in a part of a text, given what stands behind the part. -/
def BeginsIn (needle part after : Text) : Prop :=
  ∃ begun, begun ≠ [] ∧ begun <:+ part ∧ needle <+: begun ++ after

theorem beginsIn_cons_iff {needle part after : Text} {c : Char} :
    BeginsIn needle (c :: part) after ↔
      needle <+: c :: (part ++ after) ∨ BeginsIn needle part after := by
  constructor
  · rintro ⟨begun, hne, hsuffix, hprefix⟩
    rcases List.suffix_cons_iff.mp hsuffix with rfl | hpart
    · exact .inl hprefix
    · exact .inr ⟨begun, hne, hpart, hprefix⟩
  · rintro (hhere | ⟨begun, hne, hpart, hbegins⟩)
    · exact ⟨c :: part, List.cons_ne_nil _ _, List.suffix_rfl, hhere⟩
    · exact ⟨begun, hne, hpart.trans (List.suffix_cons c part), hbegins⟩

/-- What stands in a text of two parts begins in the first one or lies in the second one. -/
theorem isInfix_append_iff {needle part after : Text} :
    needle <:+: part ++ after ↔ BeginsIn needle part after ∨ needle <:+: after := by
  induction part with
  | nil =>
      constructor
      · exact .inr
      · rintro (⟨begun, hne, hnil, -⟩ | hafter)
        · exact absurd (List.suffix_nil.mp hnil) hne
        · exact hafter
  | cons c part ih =>
      rw [List.cons_append, List.infix_cons_iff, ih, beginsIn_cons_iff, or_assoc]

theorem not_beginsIn_cons {c : Char} {part : Text} (h : c ∉ part) (needle after : Text) :
    ¬BeginsIn (c :: needle) part after := by
  rintro ⟨begun, hne, hsuffix, hprefix⟩
  obtain ⟨d, rest, rfl⟩ := List.exists_cons_of_ne_nil hne
  obtain ⟨rfl, -⟩ := List.cons_prefix_cons.mp hprefix
  exact h (hsuffix.subset List.mem_cons_self)

/-- A stretch without the separator lies on one side of it. -/
theorem isInfix_append_cons_iff {a b needle : Text} {separator : Char} (hne : needle ≠ [])
    (hseparator : separator ∉ needle) :
    needle <:+: a ++ separator :: b ↔ needle <:+: a ∨ needle <:+: b := by
  have hbegins {part : Text} (hpart : part <+: separator :: b) (hin : separator ∉ part) :
      part = [] := by
    rcases List.prefix_cons_iff.mp hpart with rfl | ⟨rest, rfl, -⟩
    · rfl
    · exact absurd List.mem_cons_self hin
  rw [List.infix_append_iff, List.infix_cons_iff]
  constructor
  · rintro (ha | (hhere | hb) | ⟨left, right, rfl, hleft, hright⟩)
    · exact .inl ha
    · exact absurd (hbegins hhere hseparator) hne
    · exact .inr hb
    · obtain rfl := hbegins hright fun hin => hseparator (List.mem_append_right left hin)
      rw [List.append_nil]
      exact .inl hleft.isInfix
  · rintro (ha | hb)
    · exact .inl ha
    · exact .inr (.inl (.inr hb))

theorem isInfix_joinWith_of_mem (separator : Text) {t : Text} {ts : List Text} (h : t ∈ ts) :
    t <:+: joinWith separator ts := by
  induction ts with
  | nil => cases h
  | cons first rest ih => cases rest with
    | nil =>
        rw [List.mem_singleton.mp h]
        simp [joinWith]
    | cons next rest =>
        rw [joinWith, List.intercalate_cons_cons, List.append_assoc]
        rcases List.mem_cons.mp h with rfl | hrest
        · exact (List.prefix_append t _).isInfix
        · exact (ih hrest).trans ((List.suffix_append separator _).trans
            (List.suffix_append first _)).isInfix

theorem mentions_joinWith {needle : Text} {separator : Char} (hne : needle ≠ [])
    (hseparator : separator ∉ needle) (ts : List Text) :
    (joinWith [separator] ts).mentions needle = ts.any (·.mentions needle) := by
  induction ts with
  | nil => cases needle with
    | nil => exact absurd rfl hne
    | cons c needle => rfl
  | cons t rest ih => cases rest with
    | nil => simp [joinWith, List.intercalate]
    | cons u rest =>
        have hjoin : joinWith [separator] (t :: u :: rest) =
            t ++ separator :: joinWith [separator] (u :: rest) := by
          simp [joinWith, List.intercalate]
        rw [List.any_cons, ← ih, hjoin, Bool.eq_iff_iff, Bool.or_eq_true, mentions_iff_isInfix,
          mentions_iff_isInfix, mentions_iff_isInfix, isInfix_append_cons_iff hne hseparator]

end LinkAudit.Text
