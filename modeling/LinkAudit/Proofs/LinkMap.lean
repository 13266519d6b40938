import LinkAudit.LinkMap
import Mathlib.Data.List.Induction
import Mathlib.Data.List.Nodup

/-!
Tables of objects. Because no number occurs twice, looking for a number finds the one object of the
table that has it. A table filled from a list has, in the order in which the numbers first occur in
the list, for each number the last object that the list has for it.
-/

namespace LinkAudit.ObjectTable

theorem find?_eq_some_iff {t : ObjectTable} {index : Nat} {o : ObjectFile} :
    t.find? index = some o ↔ o ∈ t.toList ∧ o.index = index := by
  rw [find?]
  constructor
  · intro h
    exact ⟨List.mem_of_find?_eq_some h, by simpa using List.find?_some h⟩
  · rintro ⟨ho, rfl⟩
    cases hfind : t.toList.find? (·.index == o.index) with
    | none =>
        have hne := List.find?_eq_none.mp hfind o ho
        simp at hne
    | some p =>
        have hindex : p.index = o.index := by simpa using List.find?_some hfind
        rw [List.inj_on_of_nodup_map t.distinct (List.mem_of_find?_eq_some hfind) ho hindex]

/-- The order of the objects makes no difference to the one that is found. -/
theorem find?_eq_of_perm {t t' : ObjectTable} (h : t.toList.Perm t'.toList) (index : Nat) :
    t.find? index = t'.find? index := by
  apply Option.ext
  intro o
  rw [find?_eq_some_iff, find?_eq_some_iff, h.mem_iff]

theorem find?_index_cons (first : ObjectFile) (rest : List ObjectFile) (index : Nat) :
    (first :: rest).find? (·.index == index) =
      if first.index = index then some first else rest.find? (·.index == index) := by
  by_cases h : first.index = index
  · rw [List.find?_cons_of_pos (by simp [h]), if_pos h]
  · rw [List.find?_cons_of_neg (by simp [h]), if_neg h]

theorem find?_insertInto (o : ObjectFile) (os : List ObjectFile) (index : Nat) :
    (insertInto o os).find? (·.index == index) =
      if o.index = index then some o else os.find? (·.index == index) := by
  induction os with
  | nil => exact find?_index_cons o [] index
  | cons first rest ih =>
      rw [insertInto]
      split
      · rename_i hsame
        rw [find?_index_cons, find?_index_cons, hsame]
        split <;> rfl
      · rename_i hother
        rw [find?_index_cons, find?_index_cons, ih]
        by_cases hindex : o.index = index
        · rw [if_neg (fun h => hother (h.trans hindex.symm)), if_pos hindex, if_pos hindex]
        · rw [if_neg hindex, if_neg hindex]

theorem find?_insert (t : ObjectTable) (o : ObjectFile) (index : Nat) :
    (t.insert o).find? index = if o.index = index then some o else t.find? index :=
  find?_insertInto o t.toList index

theorem eq_or_mem_of_mem_insertInto {o p : ObjectFile} {os : List ObjectFile}
    (h : p ∈ insertInto o os) : p = o ∨ p ∈ os := by
  induction os with
  | nil => exact .inl (List.mem_singleton.mp h)
  | cons first rest ih =>
      rw [insertInto] at h
      split at h
      · exact (List.mem_cons.mp h).imp_right (List.mem_cons_of_mem first)
      · rcases List.mem_cons.mp h with rfl | hrest
        · exact .inr List.mem_cons_self
        · exact (ih hrest).imp_right (List.mem_cons_of_mem first)

/-- A number that is new comes last, and a number that is not keeps its place. -/
theorem map_index_insertInto (o : ObjectFile) (os : List ObjectFile) :
    (insertInto o os).map (·.index) =
      if o.index ∈ os.map (·.index) then os.map (·.index) else os.map (·.index) ++ [o.index] := by
  induction os with
  | nil => rfl
  | cons first rest ih =>
      rw [insertInto]
      split
      · rename_i hsame
        simp [hsame]
      · rename_i hother
        rw [List.map_cons, List.map_cons, ih]
        by_cases hmem : o.index ∈ rest.map (·.index)
        · rw [if_pos hmem, if_pos (List.mem_cons_of_mem _ hmem)]
        · have hnew : o.index ∉ first.index :: rest.map (·.index) :=
            List.not_mem_cons_of_ne_of_not_mem (Ne.symm hother) hmem
          rw [if_neg hmem, if_neg hnew, List.cons_append]

def filledWith (objects : List ObjectFile) : ObjectTable := objects.foldl insert empty

theorem filledWith_append_singleton (objects : List ObjectFile) (o : ObjectFile) :
    filledWith (objects ++ [o]) = (filledWith objects).insert o := by
  rw [filledWith, List.foldl_append]
  rfl

theorem find?_filledWith (objects : List ObjectFile) (index : Nat) :
    (filledWith objects).find? index = objects.reverse.find? (·.index == index) := by
  induction objects using List.reverseRecOn with
  | nil => rfl
  | append_singleton objects o ih =>
      rw [filledWith_append_singleton, List.reverse_append, List.reverse_singleton,
        List.singleton_append, find?_index_cons, ← ih, find?_insert]

theorem map_index_filledWith (objects : List ObjectFile) :
    (filledWith objects).toList.map (·.index) = (objects.map (·.index)).eraseDups := by
  induction objects using List.reverseRecOn with
  | nil => rfl
  | append_singleton objects o ih =>
      have hinsert := map_index_insertInto o (filledWith objects).toList
      rw [ih] at hinsert
      rw [filledWith_append_singleton, List.map_append, List.map_singleton, List.eraseDups_append,
        List.cons_removeAll]
      refine hinsert.trans ?_
      by_cases hmem : o.index ∈ objects.map (·.index)
      · have hold : (objects.map (·.index)).contains o.index ≠ false := by
          rw [List.contains_iff_mem.mpr hmem]
          exact Bool.noConfusion
        rw [if_pos (List.mem_eraseDups.mpr hmem), if_neg hold]
        exact (List.append_nil _).symm
      · have hnew : (objects.map (·.index)).contains o.index = false := by
          rw [Bool.eq_false_iff]
          exact fun h => hmem (List.contains_iff_mem.mp h)
        rw [if_neg (fun h => hmem (List.mem_eraseDups.mp h)), if_pos hnew]
        rfl

end LinkAudit.ObjectTable
