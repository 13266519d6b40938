import LinkAudit.FirstBy
import Std.Data.TreeSet.Lemmas

/-!
The elements that are the first with their key. An element is among them if and only if looking for
its key finds it, no key occurs twice, and a selection by key commutes with them. So does any change
of the elements that keeps equal keys equal and different keys different.
-/

namespace LinkAudit

/-- Where elements are selected by their key alone, the first one of a selected key is the first one
of that key in the whole list. -/
theorem find?_filter_key {α κ : Type} [BEq κ] [LawfulBEq κ] {key : α → κ}
    {selects : κ → Bool} {l : List α} {k : κ} (hk : selects k = true) :
    (l.filter fun b => selects (key b)).find? (fun b => key b == k) =
      l.find? fun b => key b == k := by
  induction l with
  | nil => rfl
  | cons b l ih =>
      by_cases hkey : key b = k
      · rw [List.filter_cons_of_pos (by rw [hkey]; exact hk),
          List.find?_cons_of_pos (by simp [hkey]), List.find?_cons_of_pos (by simp [hkey])]
      · rw [List.find?_cons_of_neg (by simp [hkey]), List.filter_cons]
        split
        · rw [List.find?_cons_of_neg (by simp [hkey]), ih]
        · exact ih

variable {α κ : Type} [Ord κ]

theorem firstByOnto_eq_append (key : α → κ) (seen : Std.TreeSet κ) (taken l : List α) :
    firstByOnto key seen taken l = taken.reverse ++ firstByOnto key seen [] l := by
  induction l generalizing seen taken with
  | nil => simp [firstByOnto]
  | cons a l ih =>
      rw [firstByOnto, firstByOnto]
      split
      · exact ih seen taken
      · rw [ih _ (a :: taken), ih _ [a]]
        simp

/-- The first elements of keys that have not been seen, one element at a time. -/
theorem firstByOnto_cons (key : α → κ) (seen : Std.TreeSet κ) (a : α) (l : List α) :
    firstByOnto key seen [] (a :: l) =
      if seen.contains (key a) then firstByOnto key seen [] l
      else a :: firstByOnto key (seen.insert (key a)) [] l := by
  rw [firstByOnto, firstByOnto_eq_append key (seen.insert (key a)) [a]]
  rfl

theorem firstByOnto_sublist (key : α → κ) (seen : Std.TreeSet κ) (l : List α) :
    (firstByOnto key seen [] l).Sublist l := by
  induction l generalizing seen with
  | nil => exact List.Sublist.refl []
  | cons a l ih =>
      rw [firstByOnto_cons]
      split
      · exact (ih seen).cons a
      · exact (ih _).cons_cons a

/-- The first elements are some of the elements, in their order. -/
theorem firstBy_sublist (key : α → κ) (l : List α) : (firstBy key l).Sublist l :=
  firstByOnto_sublist key ∅ l

variable [Std.TransOrd κ] [Std.LawfulEqOrd κ] [BEq κ] [LawfulBEq κ]

theorem contains_insert_eq (seen : Std.TreeSet κ) (k k' : κ) :
    (seen.insert k).contains k' = (k == k' || seen.contains k') := by
  rw [Std.TreeSet.contains_insert]
  by_cases h : k = k'
  · simp [h]
  · have hne : (compare k k' == .eq) = false := by
      simp [Std.LawfulEqCmp.compare_eq_iff_eq, h]
    rw [hne, beq_eq_false_iff_ne.mpr h]

theorem mem_firstByOnto {key : α → κ} {seen : Std.TreeSet κ} {l : List α} {a : α} :
    a ∈ firstByOnto key seen [] l ↔
      seen.contains (key a) = false ∧ l.find? (fun b => key b == key a) = some a := by
  -- the keys seen are arbitrary, since the recursion hands down one more of them
  induction l generalizing seen with
  | nil => simp [firstByOnto]
  | cons b l ih =>
      rw [firstByOnto_cons, List.find?_cons]
      by_cases hkey : key b = key a
      · simp only [hkey, beq_self_eq_true]
        cases hseen : seen.contains (key a) with
        | true => simp [ih, hseen]
        | false =>
            rw [if_neg (by simp), List.mem_cons, ih, contains_insert_eq]
            simp [eq_comm]
      · have hab : a ≠ b := fun h => hkey (by rw [h])
        simp only [beq_eq_false_iff_ne.mpr hkey]
        cases hseen : seen.contains (key b) with
        | true => rw [if_pos rfl, ih]
        | false =>
            rw [if_neg (by simp), List.mem_cons, ih, contains_insert_eq,
              beq_eq_false_iff_ne.mpr hkey]
            simp [hab]

/-- An element is among the first ones if and only if looking for its key finds it. -/
theorem mem_firstBy {key : α → κ} {l : List α} {a : α} :
    a ∈ firstBy key l ↔ l.find? (fun b => key b == key a) = some a := by
  simp [firstBy, mem_firstByOnto]

example : firstBy (fun n : Nat => n % 3) [1, 4, 2, 5, 3] = [1, 2, 3] := by decide +kernel

theorem mem_of_mem_firstBy {key : α → κ} {l : List α} {a : α} (h : a ∈ firstBy key l) : a ∈ l :=
  List.mem_of_find?_eq_some (mem_firstBy.mp h)

theorem nodup_map_firstByOnto (key : α → κ) (seen : Std.TreeSet κ) (l : List α) :
    ((firstByOnto key seen [] l).map key).Nodup := by
  induction l generalizing seen with
  | nil => simp [firstByOnto]
  | cons a l ih =>
      rw [firstByOnto_cons]
      split
      · exact ih seen
      · rw [List.map_cons, List.nodup_cons]
        refine ⟨?_, ih _⟩
        intro hmem
        obtain ⟨b, hb, hkey⟩ := List.mem_map.mp hmem
        have hseen := (mem_firstByOnto.mp hb).1
        rw [hkey, contains_insert_eq] at hseen
        simp at hseen

/-- The first elements have pairwise different keys. -/
theorem nodup_map_firstBy (key : α → κ) (l : List α) : ((firstBy key l).map key).Nodup :=
  nodup_map_firstByOnto key ∅ l

/-- Every key of the list is the key of a first element. -/
theorem exists_mem_firstBy (key : α → κ) {l : List α} {a : α} (h : a ∈ l) :
    ∃ b ∈ firstBy key l, key b = key a := by
  cases hfind : l.find? (fun b => key b == key a) with
  | none =>
      have hne := List.find?_eq_none.mp hfind a h
      simp at hne
  | some b =>
      have hkey : key b = key a := by simpa using List.find?_some hfind
      refine ⟨b, mem_firstBy.mpr ?_, hkey⟩
      rw [hkey]
      exact hfind

theorem mem_firstBy_filter_key {key : α → κ} {selects : κ → Bool} {l : List α} {a : α} :
    a ∈ firstBy key (l.filter fun b => selects (key b)) ↔
      selects (key a) = true ∧ l.find? (fun b => key b == key a) = some a := by
  rw [mem_firstBy]
  constructor
  · intro h
    have hselects : selects (key a) = true := (List.mem_filter.mp (List.mem_of_find?_eq_some h)).2
    rw [find?_filter_key hselects] at h
    exact ⟨hselects, h⟩
  · rintro ⟨hselects, h⟩
    rw [find?_filter_key hselects]
    exact h

theorem firstByOnto_eq_self {key : α → κ} {seen : Std.TreeSet κ} {l : List α}
    (h : (l.map key).Nodup) (hseen : ∀ a ∈ l, seen.contains (key a) = false) :
    firstByOnto key seen [] l = l := by
  induction l generalizing seen with
  | nil => rfl
  | cons a l ih =>
      rw [List.map_cons, List.nodup_cons] at h
      rw [firstByOnto_cons, hseen a List.mem_cons_self, if_neg Bool.false_ne_true, ih h.2]
      intro b hb
      have hne : key a ≠ key b := fun heq => h.1 (heq ▸ List.mem_map_of_mem hb)
      rw [contains_insert_eq, beq_eq_false_iff_ne.mpr hne, Bool.false_or]
      exact hseen b (List.mem_cons_of_mem a hb)

/-- Where no key occurs twice, every element is the first with its key. -/
theorem firstBy_eq_self {key : α → κ} {l : List α} (h : (l.map key).Nodup) : firstBy key l = l :=
  firstByOnto_eq_self h fun a _ => by simp

variable {β ν : Type} [Ord ν] [Std.TransOrd ν] [Std.LawfulEqOrd ν] [BEq ν] [LawfulBEq ν]

theorem firstByOnto_map {key : α → κ} {key' : β → ν} {change : α → β}
    (hkeys : ∀ a b, key' (change a) = key' (change b) ↔ key a = key b) {seen : Std.TreeSet κ}
    {seen' : Std.TreeSet ν}
    (hseen : ∀ a, seen'.contains (key' (change a)) = seen.contains (key a)) (l : List α) :
    firstByOnto key' seen' [] (l.map change) = (firstByOnto key seen [] l).map change := by
  -- the two sets of keys seen stay alike, element by element
  induction l generalizing seen seen' with
  | nil => rfl
  | cons a l ih =>
      rw [List.map_cons, firstByOnto_cons, firstByOnto_cons, hseen]
      split
      · exact ih hseen
      · rw [List.map_cons, ih]
        intro b
        have hbeq : (key' (change a) == key' (change b)) = (key a == key b) := by
          rw [Bool.eq_iff_iff, beq_iff_eq, beq_iff_eq, hkeys]
        rw [contains_insert_eq, contains_insert_eq, hseen, hbeq]

/-- Changing elements without identifying or separating keys changes the first elements alike. -/
theorem firstBy_map {key : α → κ} {key' : β → ν} {change : α → β}
    (hkeys : ∀ a b, key' (change a) = key' (change b) ↔ key a = key b) (l : List α) :
    firstBy key' (l.map change) = (firstBy key l).map change :=
  firstByOnto_map hkeys (fun _ => by simp) l

end LinkAudit
