import LinkAudit.Modules
import LinkAudit.Proofs.Order

/-!
Modules that are common among names. Main statement: a module is common if it has ten names and its
share of all names, one in twenty rounded down, and if it is not one of those that are always shown.
Because of the rounding a module may be common that is short of one in twenty, but never by a whole
name.
-/

namespace LinkAudit.Modules

def countOf (names : List Text) (home : Text) : Nat :=
  names.countP fun name => moduleOf? name == some home

/-- Modules that may be left out: those that are neither of the system nor private nor of the
runtime. -/
structure MayBeLeftOut (home : Text) : Prop where
  not_system : home ∉ system
  not_private : ¬"__".toList <+: home
  not_runtime : ¬"swift".toList <+: home.lower

/-- Whether so many names are ten or more and one in twenty of all names. -/
def IsFullShare (count total : Nat) : Prop := 10 ≤ count ∧ total ≤ 20 * count

theorem count_filterMap_moduleOf? (names : List Text) (home : Text) :
    (names.filterMap moduleOf?).count home = countOf names home := by
  rw [List.count, List.countP_filterMap, countOf]
  congr 1
  ext name
  cases moduleOf? name <;> rfl

theorem isAlwaysShown_eq_false_iff {home : Text} :
    isAlwaysShown home = false ↔ MayBeLeftOut home := by
  simp only [isAlwaysShown, Bool.or_eq_false_iff, List.contains_eq_mem, decide_eq_false_iff_not]
  simp only [← Bool.not_eq_true, List.isPrefixOf_iff_prefix]
  constructor
  · rintro ⟨⟨hsystem, hprivate⟩, hruntime⟩
    exact ⟨hsystem, hprivate, hruntime⟩
  · rintro ⟨hsystem, hprivate, hruntime⟩
    exact ⟨⟨hsystem, hprivate⟩, hruntime⟩

/-- The share is rounded down, so that what is short of it by less than a name is enough. -/
theorem threshold_le_iff {total count : Nat} :
    threshold total ≤ count ↔ 10 ≤ count ∧ total < 20 * (count + 1) := by
  rw [threshold, leastCount, shareDivisor]
  omega

theorem mem_common {names : List Text} {home : Text} :
    home ∈ common names ↔
      threshold names.length ≤ countOf names home ∧ MayBeLeftOut home := by
  rw [common, List.mem_filter, Text.mem_distinct, Bool.and_eq_true, decide_eq_true_eq,
    Bool.not_eq_true', isAlwaysShown_eq_false_iff, count_filterMap_moduleOf?]
  constructor
  · rintro ⟨-, hshare⟩
    exact hshare
  · intro hshare
    refine ⟨?_, hshare⟩
    -- a module with the ten names that are asked for is the module of one of them
    have hten := (threshold_le_iff.mp hshare.1).1
    rw [← count_filterMap_moduleOf?] at hten
    exact List.count_pos_iff.mp (by omega)

/-- A module is common if it may be left out and has ten names and the share of one in twenty,
rounded down. So one in twenty decides, unless the module is short of it by less than a name. -/
theorem mem_common_iff (names : List Text) (home : Text) :
    let count := countOf names home
    let total := names.length
    (home ∈ common names ↔ 10 ≤ count ∧ total < 20 * (count + 1) ∧ MayBeLeftOut home) ∧
      ((home ∈ common names ↔ IsFullShare count total ∧ MayBeLeftOut home) ↔
        ¬(10 ≤ count ∧ 20 * count < total ∧ total < 20 * (count + 1) ∧ MayBeLeftOut home)) := by
  intro count total
  have hmem : home ∈ common names ↔
      10 ≤ count ∧ total < 20 * (count + 1) ∧ MayBeLeftOut home := by
    rw [mem_common, threshold_le_iff, and_assoc]
  refine ⟨hmem, ?_⟩
  rw [hmem, IsFullShare]
  by_cases hhome : MayBeLeftOut home
  · simp only [hhome, and_true]
    omega
  · simp only [hhome, and_false, not_false_eq_true]

/-- Ten names of two hundred and one are less than one in twenty, and their module is common. -/
theorem app_mem_common :
    let names := List.replicate 10 "_$s3App4loadyyF".toList ++ List.replicate 191 "_main".toList
    countOf names "App".toList = 10 ∧ names.length = 201 ∧
      ¬IsFullShare (countOf names "App".toList) names.length ∧ "App".toList ∈ common names := by
  intro names
  have hload : moduleOf? "_$s3App4loadyyF".toList = some "App".toList := by decide +kernel
  have hmain : moduleOf? "_main".toList = none := by decide +kernel
  have hcount : countOf names "App".toList = 10 := by
    rw [countOf, List.countP_append, List.countP_replicate, List.countP_replicate, hload, hmain]
    rfl
  have htotal : names.length = 201 := by
    rw [List.length_append, List.length_replicate, List.length_replicate]
  have hhome : MayBeLeftOut "App".toList := isAlwaysShown_eq_false_iff.mp (by decide +kernel)
  refine ⟨hcount, htotal, ?_, ?_⟩
  · rw [hcount, htotal, IsFullShare]
    omega
  · rw [mem_common, hcount, htotal, threshold_le_iff]
    exact ⟨by omega, hhome⟩

end LinkAudit.Modules
