import LinkAudit.Proofs.Text.Split
import LinkAudit.Proofs.Text.Stretch
import LinkAudit.Source.Hint

/-!
The stems of an object's path. A name without its extension is the beginning of the name, so that
every stem begins the last component of the path, and no stem has a character that is not in the
path. No stem is empty, and a name made of a stem and an extension is taken apart into the two. What
is said of all stems of a name is shown first of names that have no extension and then of those that
have one more than a shorter name (`stemsFrom_induction`).
-/

namespace LinkAudit

namespace Path

/-- The extension of a name is what was added to it, last dot included. -/
theorem splitExtension_append {stem extension : Text} (hstem : stem ≠ []) (hne : extension ≠ [])
    (hdot : '.' ∉ extension) :
    splitExtension (stem ++ '.' :: extension) = (stem, '.' :: extension) := by
  have hreverse : (stem ++ '.' :: extension).reverse =
      extension.reverse ++ '.' :: stem.reverse := by simp
  have hstretch : Text.IsStretch (· ≠ '.') extension.reverse ('.' :: stem.reverse) := by
    refine Text.isStretch_before_cons ?_ (by simp) _
    intro c hc
    have hne : c ≠ '.' := by
      rintro rfl
      exact hdot (List.mem_reverse.mp hc)
    simpa using hne
  unfold splitExtension
  dsimp only
  rw [hreverse, hstretch.takeWhile_append, hstretch.dropWhile_append]
  simp [hstem, hne]

/-- A name without an extension stays as it is, and any other is a stem with its extension. -/
theorem fst_splitExtension_eq_self_or (name : Text) :
    (splitExtension name).1 = name ∨
      ∃ stem extension, stem ≠ [] ∧ extension ≠ [] ∧ '.' ∉ extension ∧
        name = stem ++ '.' :: extension := by
  obtain ⟨front, after, rfl, htail⟩ := Text.exists_isTail (· ≠ '.') name
  have hafter : '.' ∉ after := fun hdot => by simpa using htail.inside _ hdot
  rcases List.eq_nil_or_concat front with rfl | ⟨before, c, rfl⟩
  · left
    unfold splitExtension
    rw [htail.dropWhile_reverse]
    rfl
  · rw [List.concat_eq_append] at htail ⊢
    obtain rfl : c = '.' := by simpa using htail.begins c List.getLast?_concat
    by_cases hsides : before = [] ∨ after = []
    · left
      unfold splitExtension
      rw [htail.takeWhile_reverse, htail.dropWhile_reverse, List.reverse_concat]
      dsimp only
      rw [if_pos (by simpa using hsides)]
    · obtain ⟨hbefore, hne⟩ := not_or.mp hsides
      exact .inr ⟨before, after, hbefore, hne, hafter, by simp⟩

theorem fst_splitExtension_prefix (name : Text) : (splitExtension name).1 <+: name := by
  rcases fst_splitExtension_eq_self_or name with
    hwhole | ⟨stem, extension, hstem, hne, hdot, rfl⟩
  · simp [hwhole]
  · rw [splitExtension_append hstem hne hdot]
    exact List.prefix_append stem _

theorem fst_splitExtension_ne_nil {name : Text} (h : name ≠ []) : (splitExtension name).1 ≠ [] := by
  rcases fst_splitExtension_eq_self_or name with
    hwhole | ⟨stem, extension, hstem, hne, hdot, rfl⟩
  · rwa [hwhole]
  · rwa [splitExtension_append hstem hne hdot]

theorem name_ofText_subset (t : Text) : (ofText t).name ⊆ t := by
  intro c hc
  rw [name] at hc
  cases hlast : (ofText t).parts.getLast? with
  | none => simp [hlast] at hc
  | some part =>
      have hpart : part ∈ t.splitOn '/' := (List.mem_filter.mp (List.mem_of_getLast? hlast)).1
      rw [hlast] at hc
      exact (Text.mem_of_mem_splitOn hpart hc).1

end Path

namespace ObjectFile

theorem stemsFrom_of_eq {name : Text} (h : (Path.splitExtension name).1 = name) :
    stemsFrom name = [name] := by
  rw [stemsFrom, h]
  simp

theorem stemsFrom_append {stem extension : Text} (hstem : stem ≠ []) (hne : extension ≠ [])
    (hdot : '.' ∉ extension) :
    stemsFrom (stem ++ '.' :: extension) = (stem ++ '.' :: extension) :: stemsFrom stem := by
  rw [stemsFrom, Path.splitExtension_append hstem hne hdot]
  simp

/-- Names are either whole or have an extension behind a shorter name. -/
theorem stemsFrom_induction {motive : Text → Prop}
    (whole : ∀ name, (Path.splitExtension name).1 = name → motive name)
    (extended : ∀ stem extension, stem ≠ [] → extension ≠ [] → '.' ∉ extension → motive stem →
      motive (stem ++ '.' :: extension)) (name : Text) : motive name := by
  induction name using stemsFrom.induct with
  | case1 name shorter ih =>
      rcases Path.fst_splitExtension_eq_self_or name with
        hwhole | ⟨stem, extension, hstem, hne, hdot, rfl⟩
      · exact whole name hwhole
      · have hshorter : shorter = stem :=
          congrArg Prod.fst (Path.splitExtension_append hstem hne hdot)
        rw [hshorter] at ih
        exact extended stem extension hstem hne hdot (ih (by simp))

theorem prefix_of_mem_stemsFrom {name stem : Text} (h : stem ∈ stemsFrom name) : stem <+: name := by
  induction name using stemsFrom_induction with
  | whole name hwhole =>
      obtain rfl : stem = name := by simpa [stemsFrom_of_eq hwhole] using h
      exact List.prefix_rfl
  | extended rest extension hrest hne hdot ih =>
      rw [stemsFrom_append hrest hne hdot, List.mem_cons] at h
      rcases h with rfl | h
      · exact List.prefix_rfl
      · exact (ih h).trans (List.prefix_append rest _)

theorem ne_nil_of_mem_stemsFrom {name stem : Text} (hname : name ≠ [])
    (h : stem ∈ stemsFrom name) : stem ≠ [] := by
  induction name using stemsFrom_induction with
  | whole name hwhole =>
      rw [stemsFrom_of_eq hwhole, List.mem_singleton] at h
      rwa [h]
  | extended rest extension hrest hne hdot ih =>
      rw [stemsFrom_append hrest hne hdot, List.mem_cons] at h
      rcases h with rfl | h
      · exact hname
      · exact ih hrest h

theorem ne_nil_of_mem_stemsOf {path stem : Text} (h : stem ∈ stemsOf path) : stem ≠ [] := by
  rw [stemsOf] at h
  split at h
  · exact absurd h List.not_mem_nil
  · rename_i hstem
    exact ne_nil_of_mem_stemsFrom (by simpa using hstem) h

theorem subset_of_mem_stemsOf {path stem : Text} (h : stem ∈ stemsOf path) : stem ⊆ path := by
  rw [stemsOf] at h
  split at h
  · exact absurd h List.not_mem_nil
  · have hbegins := (prefix_of_mem_stemsFrom h).trans (Path.fst_splitExtension_prefix _)
    exact List.Subset.trans hbegins.subset (Path.name_ofText_subset path)

end ObjectFile

end LinkAudit
