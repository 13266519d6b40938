import LinkAudit.Proofs.Text.Stretch

/-!
Trimmed texts. A text whose ends are not of the class that is dropped stays as it is, also inside a
longer text, and what was added of the class around it is dropped.
-/

namespace LinkAudit.Text

variable {drops : Char → Bool} {t : Text}

theorem trimEnd_eq_self (h : ∀ c ∈ t.getLast?, drops c = false) : t.trimEnd drops = t := by
  have hreverse : t.reverse.dropWhile drops = t.reverse := by
    rw [← List.head?_reverse] at h
    exact @IsStretch.dropWhile_append drops [] t.reverse ⟨by simp, h⟩
  rw [trimEnd, hreverse, List.reverse_reverse]

theorem trimEnd_append_singleton {c : Char} (hc : drops c = true) (t : Text) :
    (t ++ [c]).trimEnd drops = t.trimEnd drops := by
  rw [trimEnd, List.reverse_append, List.reverse_singleton, List.singleton_append,
    List.dropWhile_cons_of_pos hc, trimEnd]

theorem trimEnd_append_replicate {c : Char} (hc : drops c = true) (t : Text) (n : Nat) :
    (t ++ List.replicate n c).trimEnd drops = t.trimEnd drops := by
  induction n with
  | zero => rw [List.replicate_zero, List.append_nil]
  | succ n ih =>
      rw [List.replicate_succ', ← List.append_assoc, trimEnd_append_singleton hc, ih]

theorem trim_eq_self (hhead : ∀ c ∈ t.head?, drops c = false)
    (hlast : ∀ c ∈ t.getLast?, drops c = false) : t.trim drops = t := by
  have hnone : t.dropWhile drops = t := @IsStretch.dropWhile_append drops [] t ⟨by simp, hhead⟩
  rw [trim, hnone, trimEnd_eq_self hlast]

/-- A text comes back from behind characters that are dropped. -/
theorem trim_append {indent : Text} (hindent : ∀ c ∈ indent, drops c = true)
    (hhead : ∀ c ∈ t.head?, drops c = false) (hlast : ∀ c ∈ t.getLast?, drops c = false) :
    trim (indent ++ t) drops = t := by
  have hstretch : IsStretch drops indent t := ⟨hindent, hhead⟩
  rw [trim, hstretch.dropWhile_append, trimEnd_eq_self hlast]

theorem length_trim_le (t : Text) (drops : Char → Bool) : (t.trim drops).length ≤ t.length := by
  rw [trim, trimEnd, List.length_reverse]
  refine Nat.le_trans (List.dropWhile_suffix _).length_le ?_
  rw [List.length_reverse]
  exact (List.dropWhile_suffix _).length_le

theorem isInfix_dropWhile {kept : Text} (hin : kept <:+: t)
    (hhead : ∀ c ∈ kept.head?, drops c = false) : kept <:+: t.dropWhile drops := by
  induction t with
  | nil => exact hin
  | cons c t ih =>
      cases hdrops : drops c with
      | false => rwa [List.dropWhile_cons_of_neg (by simp [hdrops])]
      | true =>
          rw [List.dropWhile_cons_of_pos hdrops]
          rcases List.infix_cons_iff.mp hin with hfront | hbehind
          · cases kept with
            | nil => exact List.nil_infix
            | cons d kept =>
                obtain ⟨rfl, -⟩ := List.cons_prefix_cons.mp hfront
                exact absurd (hdrops.symm.trans (hhead d rfl)) Bool.noConfusion
          · exact ih hbehind

/-- What stands in a text is still there when the text is trimmed, if its own ends are not of the
class that is dropped. -/
theorem isInfix_trim {kept : Text} (hin : kept <:+: t)
    (hhead : ∀ c ∈ kept.head?, drops c = false) (hlast : ∀ c ∈ kept.getLast?, drops c = false) :
    kept <:+: t.trim drops := by
  rw [← List.head?_reverse] at hlast
  have hfront := isInfix_dropWhile hin hhead
  have hback := isInfix_dropWhile (List.reverse_infix.mpr hfront) hlast
  rw [trim, trimEnd, ← List.reverse_reverse kept]
  exact List.reverse_infix.mpr hback

end LinkAudit.Text
