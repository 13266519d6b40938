import LinkAudit.Path

/-!
Link maps: the object files that went into a build and the symbols that came out of it. Objects are
numbered, and a symbol names its object by that number. A table of objects keeps one object for each
number, in the order in which the numbers first appeared.
-/

namespace LinkAudit

structure ObjectFile where
  index : Nat
  path : Text
  deriving DecidableEq

def ObjectFile.baseName (o : ObjectFile) : Text := (Path.ofText o.path).name

structure ObjectTable where
  toList : List ObjectFile
  distinct : (toList.map (·.index)).Nodup

namespace ObjectTable

def empty : ObjectTable := ⟨[], by simp⟩

/-- Puts the object in the place of the one with its number, or else at the end. -/
def insertInto (o : ObjectFile) : List ObjectFile → List ObjectFile
  | [] => [o]
  | first :: rest => if first.index = o.index then o :: rest else first :: insertInto o rest

theorem index_mem_insertInto {o : ObjectFile} {i : Nat} {os : List ObjectFile} :
    i ∈ (insertInto o os).map (·.index) ↔ i = o.index ∨ i ∈ os.map (·.index) := by
  induction os with
  | nil => simp [insertInto]
  | cons first rest ih =>
    by_cases h : first.index = o.index
    · simp [insertInto, h]
    · simp only [insertInto, h, if_false, List.map_cons, List.mem_cons, ih]
      grind

theorem nodup_insertInto {o : ObjectFile} {os : List ObjectFile}
    (h : (os.map (·.index)).Nodup) : ((insertInto o os).map (·.index)).Nodup := by
  induction os with
  | nil => simp [insertInto]
  | cons first rest ih =>
    rw [List.map_cons, List.nodup_cons] at h
    by_cases heq : first.index = o.index
    · rw [insertInto, if_pos heq, List.map_cons, List.nodup_cons, ← heq]
      exact h
    · simp only [insertInto, heq, if_false, List.map_cons, List.nodup_cons]
      refine ⟨?_, ih h.2⟩
      rw [index_mem_insertInto]
      rintro (same | below)
      · exact heq same
      · exact h.1 below

def insert (t : ObjectTable) (o : ObjectFile) : ObjectTable :=
  ⟨insertInto o t.toList, nodup_insertInto t.distinct⟩

def find? (t : ObjectTable) (index : Nat) : Option ObjectFile :=
  t.toList.find? (·.index == index)

end ObjectTable

structure Symbol where
  address : Nat
  size : Nat
  objectIndex : Nat
  name : Text
  deriving DecidableEq

def Symbol.totalSize (symbols : List Symbol) : Nat := symbols.foldr (fun s n => s.size + n) 0

structure LinkMap where
  objects : ObjectTable
  symbols : List Symbol
  lineCount : Nat

namespace LinkMap

/-- The object with the number; negative numbers belong to no object. -/
def objectAt? (m : LinkMap) : Int → Option ObjectFile
  | .ofNat index => m.objects.find? index
  | .negSucc _ => none

def objectOf? (m : LinkMap) (s : Symbol) : Option ObjectFile := m.objects.find? s.objectIndex

end LinkMap

end LinkAudit
