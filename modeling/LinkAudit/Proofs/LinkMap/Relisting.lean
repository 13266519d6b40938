import LinkAudit.Modules
import LinkAudit.Proofs.LinkMap
import LinkAudit.Proofs.Order
import Mathlib.Logic.Embedding.Basic

/-!
One build listed in several ways. A listing may give the objects of a build other numbers, as long
as different objects keep different ones, and it may put objects and symbols in another order. Each
symbol still has its object, and the build is still about the same modules.
-/

namespace LinkAudit

variable {ρ : Nat ↪ Nat}

/-! Other numbers. -/

def Symbol.renumber (ρ : Nat ↪ Nat) (s : Symbol) : Symbol :=
  { s with objectIndex := ρ s.objectIndex }

@[simp] theorem Symbol.name_renumber (s : Symbol) : (s.renumber ρ).name = s.name := rfl

@[simp] theorem Symbol.objectIndex_renumber (s : Symbol) :
    (s.renumber ρ).objectIndex = ρ s.objectIndex := rfl

@[simp] theorem Symbol.totalSize_map_renumber (symbols : List Symbol) :
    totalSize (symbols.map (·.renumber ρ)) = totalSize symbols :=
  List.foldr_map

def ObjectFile.renumber (ρ : Nat ↪ Nat) (o : ObjectFile) : ObjectFile :=
  { o with index := ρ o.index }

@[simp] theorem ObjectFile.index_renumber (o : ObjectFile) : (o.renumber ρ).index = ρ o.index := rfl

def ObjectTable.renumber (ρ : Nat ↪ Nat) (t : ObjectTable) : ObjectTable where
  toList := t.toList.map (·.renumber ρ)
  distinct := by
    have h := t.distinct.map ρ.injective
    rw [List.map_map] at h ⊢
    exact h

@[simp] theorem ObjectTable.toList_renumber (t : ObjectTable) :
    (t.renumber ρ).toList = t.toList.map (·.renumber ρ) := rfl

theorem ObjectTable.find?_renumber (t : ObjectTable) (index : Nat) :
    (t.renumber ρ).find? (ρ index) = (t.find? index).map (·.renumber ρ) := by
  rw [find?, find?, toList_renumber, List.find?_map]
  congr 2
  funext o
  rw [Function.comp_apply, ObjectFile.index_renumber, Bool.eq_iff_iff, beq_iff_eq, beq_iff_eq,
    ρ.apply_eq_iff_eq]

/-- The objects of renumbered symbols are told apart as before. -/
theorem contains_objectIndices_renumber (ρ : Nat ↪ Nat) (symbols : List Symbol) (index : Nat) :
    (Std.TreeSet.ofList ((symbols.map (·.renumber ρ)).map (·.objectIndex))).contains (ρ index) =
      (Std.TreeSet.ofList (symbols.map (·.objectIndex))).contains index := by
  have hnumbers : (symbols.map (·.renumber ρ)).map (·.objectIndex) =
      (symbols.map (·.objectIndex)).map ρ := by
    rw [List.map_map, List.map_map]
    rfl
  rw [hnumbers, Std.TreeSet.contains_ofList, Std.TreeSet.contains_ofList, Bool.eq_iff_iff,
    List.contains_iff_mem, List.contains_iff_mem, List.mem_map_of_injective ρ.injective]

def LinkMap.renumber (ρ : Nat ↪ Nat) (m : LinkMap) : LinkMap :=
  { m with objects := m.objects.renumber ρ, symbols := m.symbols.map (·.renumber ρ) }

namespace LinkMap

@[simp] theorem symbols_renumber (m : LinkMap) :
    (m.renumber ρ).symbols = m.symbols.map (·.renumber ρ) := rfl

@[simp] theorem objects_renumber (m : LinkMap) : (m.renumber ρ).objects = m.objects.renumber ρ :=
  rfl

@[simp] theorem objectOf?_renumber (m : LinkMap) (s : Symbol) :
    (m.renumber ρ).objectOf? (s.renumber ρ) = (m.objectOf? s).map (·.renumber ρ) :=
  m.objects.find?_renumber s.objectIndex

end LinkMap

@[simp] theorem isIgnored_map_renumber (o : Option ObjectFile) :
    isIgnored (o.map (·.renumber ρ)) = isIgnored o := by
  cases o <;> rfl

theorem Modules.ofProject_renumber (m : LinkMap) : ofProject (m.renumber ρ) = ofProject m := by
  simp only [ofProject, LinkMap.symbols_renumber, List.filter_map, List.filterMap_map,
    Function.comp_def, LinkMap.objectOf?_renumber, isIgnored_map_renumber, Symbol.name_renumber]

/-! Another order. -/

structure LinkMap.IsReorderingOf (m m' : LinkMap) : Prop where
  objects : m.objects.toList.Perm m'.objects.toList
  symbols : m.symbols.Perm m'.symbols

namespace LinkMap.IsReorderingOf

variable {m m' : LinkMap}

theorem symm (h : m.IsReorderingOf m') : m'.IsReorderingOf m := ⟨h.objects.symm, h.symbols.symm⟩

theorem objectOf?_eq (h : m.IsReorderingOf m') : m.objectOf? = m'.objectOf? := by
  funext s
  exact ObjectTable.find?_eq_of_perm h.objects s.objectIndex

theorem ofProject_eq (h : m.IsReorderingOf m') : Modules.ofProject m = Modules.ofProject m' := by
  apply Text.distinct_congr
  intro home
  rw [h.objectOf?_eq]
  exact ((h.symbols.filter _).filterMap _).mem_iff

end LinkMap.IsReorderingOf

end LinkAudit
