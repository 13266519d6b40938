import LinkAudit.Text.Basic

/-!
Pieces of a text. Splitting a text is the splitting of lists, so that pieces without the separator
come back when they are joined with it, and there is one piece more than there are separators. Each
separator is the first one or stands behind it.
-/

namespace LinkAudit.Text

theorem splitOnto_eq_append (separator : Char) (piece : Text) (pieces : List Text) (t : Text) :
    splitOnto separator piece pieces t =
      pieces.reverse ++ List.splitOnPPrepend (· == separator) t piece := by
  induction t generalizing piece pieces with
  | nil => simp [splitOnto]
  | cons c rest ih =>
      rw [splitOnto]
      by_cases hc : c = separator
      · rw [if_pos hc, ih, List.splitOnPPrepend_cons_pos (by simp [hc]), List.reverse_cons,
          List.append_assoc]
        rfl
      · rw [if_neg hc, ih, List.splitOnPPrepend_cons_neg (by simp [hc])]

theorem splitOn_eq_splitOn (t : Text) (separator : Char) :
    splitOn t separator = List.splitOn separator t := by
  rw [splitOn, splitOnto_eq_append]
  rfl

theorem splitOn_joinWith {pieces : List Text} {separator : Char}
    (hpieces : ∀ piece ∈ pieces, separator ∉ piece) (hne : pieces ≠ []) :
    splitOn (joinWith [separator] pieces) separator = pieces := by
  rw [splitOn_eq_splitOn, joinWith, List.splitOn_intercalate separator hpieces hne]

theorem splitOn_of_not_mem {t : Text} {separator : Char} (h : separator ∉ t) :
    splitOn t separator = [t] := by
  have hpieces : ∀ piece ∈ [t], separator ∉ piece := by simpa using h
  have hjoined : joinWith [separator] [t] = t := List.intercalate_singleton
  simpa [hjoined] using splitOn_joinWith hpieces (List.cons_ne_nil t [])

/-- Joining two lists of pieces puts the separator between them. -/
theorem joinWith_append {separator : Text} {pieces pieces' : List Text} (h : pieces ≠ [])
    (h' : pieces' ≠ []) :
    joinWith separator (pieces ++ pieces') =
      joinWith separator pieces ++ (separator ++ joinWith separator pieces') := by
  induction pieces with
  | nil => exact absurd rfl h
  | cons piece rest ih =>
      cases rest with
      | nil =>
          obtain ⟨first, after, rfl⟩ := List.exists_cons_of_ne_nil h'
          simp [joinWith]
      | cons next rest =>
          have hrest := ih (List.cons_ne_nil next rest)
          simp only [joinWith, List.cons_append, List.intercalate_cons_cons, List.append_assoc]
            at hrest ⊢
          rw [hrest]

theorem length_splitOn (t : Text) (separator : Char) :
    (splitOn t separator).length = t.count separator + 1 := by
  have hcount (piece : Text) :
      (List.splitOnPPrepend (· == separator) t piece).length = t.count separator + 1 := by
    induction t generalizing piece with
    | nil => rfl
    | cons c rest ih =>
        by_cases hc : c = separator
        · rw [List.splitOnPPrepend_cons_pos (by simp [hc]), hc, List.count_cons_self,
            List.length_cons]
          exact congrArg (· + 1) (ih [])
        · rw [List.splitOnPPrepend_cons_neg (by simp [hc]), ih, List.count_cons_of_ne hc]
  rw [splitOn, splitOnto_eq_append]
  exact hcount []

theorem mem_of_mem_splitOnPPrepend {t begun piece : Text} {separator c : Char}
    (h : piece ∈ List.splitOnPPrepend (· == separator) t begun) (hc : c ∈ piece) :
    c ∈ begun ∨ c ∈ t ∧ c ≠ separator := by
  induction t generalizing begun with
  | nil =>
      rw [List.splitOnPPrepend_nil, List.mem_singleton] at h
      rw [h, List.mem_reverse] at hc
      exact .inl hc
  | cons d rest ih =>
      by_cases hd : d = separator
      · rw [List.splitOnPPrepend_cons_pos (by simp [hd]), List.mem_cons] at h
        rcases h with h | h
        · rw [h, List.mem_reverse] at hc
          exact .inl hc
        · rcases ih h with hbegun | ⟨hrest, hne⟩
          · exact absurd hbegun List.not_mem_nil
          · exact .inr ⟨List.mem_cons_of_mem d hrest, hne⟩
      · rw [List.splitOnPPrepend_cons_neg (by simp [hd])] at h
        rcases ih h with hbegun | ⟨hrest, hne⟩
        · rcases List.mem_cons.mp hbegun with rfl | hbegun
          · exact .inr ⟨List.mem_cons_self, hd⟩
          · exact .inl hbegun
        · exact .inr ⟨List.mem_cons_of_mem d hrest, hne⟩

/-- A piece has characters of the text only, and none of them is the separator. -/
theorem mem_of_mem_splitOn {t piece : Text} {separator c : Char} (h : piece ∈ splitOn t separator)
    (hc : c ∈ piece) : c ∈ t ∧ c ≠ separator := by
  rw [splitOn, splitOnto_eq_append] at h
  exact (mem_of_mem_splitOnPPrepend h hc).resolve_left List.not_mem_nil

/-- A separator of a text is the first one or stands behind it. -/
theorem eq_or_exists_of_append_cons_eq {separator : Char} {front rest before after : Text}
    (hfront : separator ∉ front) (h : before ++ separator :: after = front ++ separator :: rest) :
    before = front ∧ after = rest ∨
      ∃ left, before = front ++ separator :: left ∧ left ++ separator :: after = rest := by
  rcases List.append_eq_append_iff.mp h with ⟨inside, rfl, hinside⟩ | ⟨left, rfl, hleft⟩
  · cases inside with
    | nil => exact .inl ⟨(List.append_nil before).symm, (List.cons.inj hinside).2⟩
    | cons d inside =>
        obtain ⟨rfl, -⟩ := List.cons.inj hinside
        exact absurd (List.mem_append_right before List.mem_cons_self) hfront
  · cases left with
    | nil => exact .inl ⟨List.append_nil front, (List.cons.inj hleft).2.symm⟩
    | cons d left =>
        obtain ⟨rfl, hrest⟩ := List.cons.inj hleft
        exact .inr ⟨left, rfl, hrest.symm⟩

end LinkAudit.Text
