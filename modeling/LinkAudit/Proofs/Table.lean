import LinkAudit.Text.Basic
import Std.Data.TreeMap.Lemmas

/-!
Tables of texts that are filled from a list. Where the first entry for a key stays, looking for a
key finds the first element of the list with that key, and where a later entry takes the place of an
earlier one, it finds the last. Where each key brings its own value, it finds the value of every key
that is in the list.
-/

namespace LinkAudit

variable {α : Type}

/-- The first entry for a key stays. -/
theorem getElem?_foldl_insertIfNew (key : α → Text) (l : List α) (table : Std.TreeMap Text α)
    (k : Text) :
    (l.foldl (fun table a => table.insertIfNew (key a) a) table)[k]? =
      (table[k]?).or (l.find? (key · == k)) := by
  induction l generalizing table with
  | nil => simp
  | cons a rest ih =>
      rw [List.foldl_cons, ih, Std.TreeMap.getElem?_insertIfNew]
      by_cases hkey : key a = k
      · subst hkey
        rw [List.find?_cons_of_pos (by simp)]
        cases htable : table[key a]? with
        | none => simp [Std.TreeMap.mem_iff_isSome_getElem?, htable]
        | some b => simp [Std.TreeMap.mem_iff_isSome_getElem?, htable]
      · have hcompare : compare (key a) k ≠ .eq := fun h => hkey (Std.LawfulEqCmp.eq_of_compare h)
        rw [List.find?_cons_of_neg (by simpa using hkey), if_neg (fun h => hcompare h.1)]

/-- A later entry for a key takes the place of an earlier one. -/
theorem getElem?_foldl_insert_of_last {β : Type} (key : α → Text) (value : α → β) (l : List α)
    (table : Std.TreeMap Text β) (k : Text) :
    (l.foldl (fun table a => table.insert (key a) (value a)) table)[k]? =
      ((l.reverse.find? (key · == k)).map value).or table[k]? := by
  induction l generalizing table with
  | nil => simp
  | cons a rest ih =>
      rw [List.foldl_cons, ih, Std.TreeMap.getElem?_insert, List.reverse_cons, List.find?_append]
      cases hlater : rest.reverse.find? (key · == k) with
      | some b => rfl
      | none =>
          by_cases hkey : key a = k
          · subst hkey
            simp
          · have hcompare : compare (key a) k ≠ .eq := fun h =>
              hkey (Std.LawfulEqCmp.eq_of_compare h)
            simp [hkey, hcompare]

/-- A key of the list has its value in the table, if it has one. -/
theorem getElem?_foldl_insert (value? : Text → Option Text) (l : List Text)
    (table : Std.TreeMap Text Text) (k : Text) :
    (l.foldl (fun table a =>
        match value? a with
        | some b => table.insert a b
        | none => table) table)[k]? =
      (if k ∈ l then value? k else none).or table[k]? := by
  induction l generalizing table with
  | nil => simp
  | cons a rest ih =>
      rw [List.foldl_cons, ih]
      by_cases hkey : a = k
      · subst hkey
        rw [if_pos List.mem_cons_self]
        cases hvalue : value? a with
        | none => simp
        | some b =>
            rw [Std.TreeMap.getElem?_insert_self]
            split <;> rfl
      · have hmem : k ∈ a :: rest ↔ k ∈ rest := by simp [Ne.symm hkey]
        have hcompare : compare a k ≠ .eq := fun h => hkey (Std.LawfulEqCmp.eq_of_compare h)
        cases hvalue : value? a with
        | none => simp [hmem]
        | some b => simp [hmem, Std.TreeMap.getElem?_insert, hcompare]

end LinkAudit
