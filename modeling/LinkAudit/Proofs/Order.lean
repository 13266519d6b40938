import LinkAudit.Text.Basic
import Std.Data.TreeSet.Lemmas

/-!
Orders. Texts are compared character by character, which decides their lexicographic order, and a
list that is sorted by a comparison is in its order. What is sorted does not show in which order it
was before, provided that the comparison tells different elements apart.
-/

namespace LinkAudit

namespace Text

theorem compare_char_eq_lt_iff {c d : Char} : compare c d = .lt ↔ c < d :=
  compareOfLessAndEq_eq_lt

/-- Comparing two texts decides whether the first comes before the second in a dictionary. -/
theorem compare_eq_lt_iff {a b : Text} : compare a b = .lt ↔ a < b := by
  induction a generalizing b with
  | nil => cases b with
    | nil => simp
    | cons d b => simp
  | cons c a ih => cases b with
    | nil => simp
    | cons d b =>
        rw [List.compare_cons_cons, Ordering.then_eq_lt, compare_char_eq_lt_iff,
          Std.LawfulEqCmp.compare_eq_iff_eq, ih, List.cons_lt_cons_iff]

theorem isLE_compare_iff {a b : Text} : (compare a b).isLE ↔ a < b ∨ a = b := by
  rw [Ordering.isLE_iff_eq_lt_or_eq_eq, compare_eq_lt_iff, Std.LawfulEqCmp.compare_eq_iff_eq]

theorem mem_distinct {t : Text} {ts : List Text} : t ∈ distinct ts ↔ t ∈ ts := by
  rw [distinct, Std.TreeSet.mem_toList, Std.TreeSet.mem_ofList, List.contains_iff_mem]

theorem nodup_distinct (ts : List Text) : (distinct ts).Nodup := by
  apply Std.TreeSet.distinct_toList.imp
  rintro a _ hne rfl
  exact hne Std.ReflCmp.compare_self

theorem pairwise_lt_distinct (ts : List Text) : (distinct ts).Pairwise (· < ·) :=
  Std.TreeSet.ordered_toList.imp compare_eq_lt_iff.mp

/-- The distinct texts of two lists are the same if the same texts are in them. -/
theorem distinct_congr {ts ts' : List Text} (h : ∀ t, t ∈ ts ↔ t ∈ ts') :
    distinct ts = distinct ts' := by
  apply Std.TreeSet.Equiv.toList_eq
  apply Std.TreeSet.Equiv.of_forall_mem_iff
  intro t
  rw [Std.TreeSet.mem_ofList, Std.TreeSet.mem_ofList, List.contains_iff_mem, List.contains_iff_mem]
  exact h t

end Text

/-- A list sorted by a comparison is in its order. -/
theorem pairwise_mergeSort_isLE {α : Type} (cmp : α → α → Ordering) [Std.TransCmp cmp]
    (l : List α) :
    (l.mergeSort fun a b => (cmp a b).isLE).Pairwise fun a b => (cmp a b).isLE := by
  apply List.pairwise_mergeSort
  · intro a b c hab hbc
    exact Std.TransCmp.isLE_trans hab hbc
  · intro a b
    have hswap : cmp b a = (cmp a b).swap := Std.OrientedCmp.eq_swap
    rw [hswap]
    cases cmp a b <;> rfl

/-- Elements with different texts are in the strict order of their texts once they are sorted by
them. -/
theorem pairwise_lt_mergeSort_le {α : Type} (key : α → Text) {l : List α}
    (h : (l.map key).Nodup) :
    (l.mergeSort fun a b => Text.le (key a) (key b)).Pairwise fun a b => key a < key b := by
  have hsorted := pairwise_mergeSort_isLE (compareOn key) l
  have hperm := List.mergeSort_perm l fun a b => Text.le (key a) (key b)
  have hdistinct := (hperm.map key).nodup_iff.mpr h
  rw [List.Nodup, List.pairwise_map] at hdistinct
  refine hsorted.imp₂ ?_ hdistinct
  intro a b hle hne
  exact (Text.isLE_compare_iff.mp hle).resolve_right hne

/-- In a list that is in a strict order, looking for a property finds the element that has it and
comes before all others that have it. -/
theorem find?_eq_some_iff_of_pairwise {α : Type} {before : α → α → Prop}
    (hasymm : ∀ a b, before a b → ¬before b a) {l : List α} (hl : l.Pairwise before)
    {p : α → Bool} {a : α} :
    l.find? p = some a ↔ a ∈ l ∧ p a = true ∧ ∀ b ∈ l, p b = true → b = a ∨ before a b := by
  have hforward (a : α) (h : l.find? p = some a) :
      a ∈ l ∧ p a = true ∧ ∀ b ∈ l, p b = true → b = a ∨ before a b := by
    obtain ⟨ha, front, back, rfl, hfront⟩ := List.find?_eq_some_iff_append.mp h
    refine ⟨List.mem_append_right front List.mem_cons_self, ha, ?_⟩
    intro b hb hpb
    rw [List.pairwise_append, List.pairwise_cons] at hl
    rcases List.mem_append.mp hb with hb | hb
    · exact absurd hpb (by simpa using hfront b hb)
    · rcases List.mem_cons.mp hb with rfl | hb
      · exact .inl rfl
      · exact .inr (hl.2.1.1 b hb)
  refine ⟨hforward a, ?_⟩
  rintro ⟨ha, hpa, hfirst⟩
  cases hfound : l.find? p with
  | none => exact absurd hpa (List.find?_eq_none.mp hfound a ha)
  | some b =>
      -- neither the element found nor the first one comes before the other
      obtain ⟨hb, hpb, hfoundFirst⟩ := hforward b hfound
      rcases hfirst b hb hpb with rfl | hab
      · rfl
      · rcases hfoundFirst a ha hpa with rfl | hba
        · rfl
        · exact absurd hba (hasymm a b hab)

variable {α : Type} {cmp : α → α → Ordering} [Std.TransCmp cmp] {l l' : List α}

/-- Two lists of the same elements that are both in order are equal, provided that the comparison
tells different elements apart. -/
theorem eq_of_perm_of_pairwise_isLE (h : l.Perm l')
    (hties : ∀ a ∈ l, ∀ b ∈ l, cmp a b = .eq → a = b)
    (hl : l.Pairwise fun a b => (cmp a b).isLE) (hl' : l'.Pairwise fun a b => (cmp a b).isLE) :
    l = l' := by
  refine List.Perm.eq_of_pairwise ?_ hl hl' h
  intro a b ha hb hab hba
  exact hties a ha b (h.mem_iff.mpr hb) (Std.OrientedCmp.isLE_antisymm hab hba)

theorem mergeSort_isLE_eq_of_perm (h : l.Perm l')
    (hties : ∀ a ∈ l, ∀ b ∈ l, cmp a b = .eq → a = b) :
    (l.mergeSort fun a b => (cmp a b).isLE) = l'.mergeSort fun a b => (cmp a b).isLE := by
  have hsorted := List.mergeSort_perm l fun a b => (cmp a b).isLE
  have hsorted' := List.mergeSort_perm l' fun a b => (cmp a b).isLE
  refine eq_of_perm_of_pairwise_isLE (hsorted.trans (h.trans hsorted'.symm)) ?_
    (pairwise_mergeSort_isLE cmp l) (pairwise_mergeSort_isLE cmp l')
  intro a ha b hb
  exact hties a (hsorted.mem_iff.mp ha) b (hsorted.mem_iff.mp hb)

end LinkAudit
