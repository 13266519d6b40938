import LinkAudit.Proofs.LinkMap
import LinkAudit.Proofs.LinkMap.Entry
import LinkAudit.Proofs.Text.Split

/-!
The paths of objects that were read from a text. Each of them is part of one line, so that there is
no newline in it.
-/

namespace LinkAudit

theorem Text.trimEnd_subset (t : Text) (drops : Char → Bool) : t.trimEnd drops ⊆ t := by
  have h := (List.dropWhile_sublist (l := t.reverse) drops).reverse
  rw [List.reverse_reverse] at h
  exact h.subset

namespace LinkMap

theorem subset_of_field? {t field : Text} (h : field? t = some field) : field ⊆ t := by
  unfold field? at h
  dsimp only at h
  split at h
  · cases h
  · split at h
    · obtain rfl := Option.some.inj h
      exact List.Subset.trans (Text.trimEnd_subset _ _) (List.dropWhile_sublist _).subset
    · split at h
      · obtain ⟨c, hc, rfl⟩ := Option.map_eq_some_iff.mp h
        have hlast : c ∈ t := (List.takeWhile_sublist _).subset (List.mem_of_getLast? hc)
        exact List.Subset.trans (Text.trimEnd_subset _ _)
          (List.cons_subset.mpr ⟨hlast, List.nil_subset t⟩)
      · cases h

theorem path_subset_of_objectHere? {t : Text} {o : Numbered ObjectFile}
    (h : objectHere? t = some o) : o.entry.path ⊆ t := by
  obtain ⟨⟨digits, after⟩, hbracketed, h⟩ := Option.bind_eq_some_iff.mp h
  obtain ⟨path, hfield, h⟩ := Option.bind_eq_some_iff.mp h
  obtain rfl := Option.some.inj h
  obtain ⟨indent, -, -, -, rfl⟩ := exists_of_bracketed? hbracketed
  intro c hc
  have hafter : c ∈ after := subset_of_field? hfield hc
  simp [hafter]

theorem exists_suffix_of_leftmost? {α : Type} {here? : Text → Option α} {line : Text} {a : α}
    (h : leftmost? here? line = some a) : ∃ entry, entry <:+ line ∧ here? entry = some a := by
  induction line with
  | nil => exact ⟨[], List.suffix_rfl, h⟩
  | cons c rest ih =>
      rw [leftmost?, Option.orElse_eq_orElse, Option.orElse_eq_or, Option.or_eq_some_iff] at h
      rcases h with hhere | ⟨-, hrest⟩
      · exact ⟨c :: rest, List.suffix_rfl, hhere⟩
      · obtain ⟨entry, hsuffix, hentry⟩ := ih hrest
        exact ⟨entry, hsuffix.trans (List.suffix_cons c rest), hentry⟩

namespace Reading

/-- Whether no path that has been read has a newline. -/
def IsUnbroken (r : Reading) : Prop := ∀ o ∈ r.objects.toList, '\n' ∉ o.path

theorem IsUnbroken.entry {r : Reading} {line : Text} (hr : r.IsUnbroken) (hline : '\n' ∉ line) :
    (r.entry line).IsUnbroken := by
  unfold Reading.entry
  split
  · split
    · rename_i o hentry
      obtain ⟨entry, hsuffix, hhere⟩ := exists_suffix_of_leftmost? hentry
      intro p hp
      rcases ObjectTable.eq_or_mem_of_mem_insertInto hp with rfl | hold
      · intro hnewline
        exact hline (hsuffix.subset (path_subset_of_objectHere? hhere hnewline))
      · exact hr p hold
    · exact hr
  · split <;> exact hr
  · exact hr

theorem IsUnbroken.lines {r : Reading} {block : List Text} (hr : r.IsUnbroken)
    (hblock : ∀ line ∈ block, '\n' ∉ line) : (r.lines block).IsUnbroken := by
  induction block generalizing r with
  | nil => exact hr
  | cons line block ih =>
      rw [List.forall_mem_cons] at hblock
      rw [Reading.lines]
      split
      · exact ih hr hblock.2
      · exact hr
      · exact ih (hr.entry hblock.1) hblock.2

end Reading

/-- Whether no object of the build has a path with a newline. -/
def IsUnbroken (m : LinkMap) : Prop := ∀ o ∈ m.objects.toList, '\n' ∉ o.path

theorem isUnbroken_ofText (t : Text) : (ofText t).IsUnbroken := by
  have hstart : Reading.start.IsUnbroken := fun _ ho => absurd ho List.not_mem_nil
  apply hstart.lines
  intro line hline hnewline
  exact (Text.mem_of_mem_splitOn hline hnewline).2 rfl

end LinkMap

end LinkAudit
