import LinkAudit.Proofs.LinkMap
import LinkAudit.Proofs.LinkMap.Return

/-!
Line ends of link maps. A link map whose lines end in carriage returns and newlines is read like the
one whose lines end in newlines, except that numbers in brackets with nothing but blanks behind them
leave objects without a path and symbols without a name. Main statement: objects or symbols differ
if and only if one of them is such an object or symbol.
-/

namespace LinkAudit.LinkMap

open Text (MayReturn)

namespace Reading

/-- What may become of a reading when lines have a carriage return at their end: instead of an
object there may be one with its number and no path, and there may be symbols without a name. -/
structure MayLose (r r' : Reading) : Prop where
  current : r'.current = r.current
  objects : ∀ index,
    r'.objects.find? index = r.objects.find? index ∨ r'.objects.find? index = some ⟨index, []⟩
  symbols : r'.symbols = r.symbols ∨ ∃ s ∈ r'.symbols, s.name = []

variable {r r' : Reading}

theorem MayLose.addObject (h : MayLose r r') (o : Numbered ObjectFile) :
    MayLose (r.addObject o) (r'.addObject o) where
  current := h.current
  objects index := by
    rw [Reading.addObject, Reading.addObject, ObjectTable.find?_insert, ObjectTable.find?_insert]
    split
    · exact .inl rfl
    · exact h.objects index
  symbols := h.symbols

/-- An object without a path takes the place of any other object with its number. -/
theorem MayLose.addObject_pathless (h : MayLose r r') {lost : Numbered ObjectFile}
    (hpath : lost.entry.path = []) : MayLose r (r'.addObject lost) where
  current := h.current
  objects index := by
    rw [Reading.addObject, ObjectTable.find?_insert]
    split
    · rename_i hindex
      rw [← hindex, ← hpath]
      exact .inr rfl
    · exact h.objects index
  symbols := h.symbols

theorem MayLose.addObject_lost (h : MayLose r r') {o : Numbered ObjectFile}
    (hlost : r'.objects.find? o.entry.index = some ⟨o.entry.index, []⟩) :
    MayLose (r.addObject o) r' where
  current := h.current
  objects index := by
    rw [Reading.addObject, ObjectTable.find?_insert]
    split
    · rename_i hindex
      exact .inr (hindex ▸ hlost)
    · exact h.objects index
  symbols := h.symbols

theorem MayLose.addSymbol (h : MayLose r r') (s : Numbered Symbol) :
    MayLose (r.addSymbol s) (r'.addSymbol s) where
  current := h.current
  objects := h.objects
  symbols := by
    rcases h.symbols with hsame | ⟨nameless, hmem, hname⟩
    · exact .inl (congrArg (s.entry :: ·) hsame)
    · exact .inr ⟨nameless, List.mem_cons_of_mem s.entry hmem, hname⟩

/-- With a symbol without a name it does not matter which symbols there were. -/
theorem MayLose.addSymbol_nameless (h : MayLose r r') {s : Numbered Symbol}
    (hname : s.entry.name = []) {before : Reading} (hcurrent : before.current = r.current)
    (hobjects : before.objects = r.objects) : MayLose before (r'.addSymbol s) where
  current := h.current.trans hcurrent.symm
  objects := hobjects ▸ h.objects
  symbols := .inr ⟨s.entry, List.mem_cons_self, hname⟩

theorem entry_of_objects (h : r.current = .objects) (line : Text) :
    r.entry line = match leftmost? objectHere? line with
      | some o => r.addObject o
      | none => r := by
  cases hfound : leftmost? objectHere? line with
  | none => simp only [Reading.entry, h, hfound]
  | some o => simp only [Reading.entry, h, hfound]

theorem entry_of_symbols (h : r.current = .symbols) (line : Text) :
    r.entry line = match leftmost? symbolHere? line with
      | some s => r.addSymbol s
      | none => r := by
  cases hfound : leftmost? symbolHere? line with
  | none => simp only [Reading.entry, h, hfound]
  | some s => simp only [Reading.entry, h, hfound]

theorem entry_of_elsewhere (hobjects : r.current ≠ .objects) (hsymbols : r.current ≠ .symbols)
    (line : Text) : r.entry line = r := by
  rw [Reading.entry]
  split
  · contradiction
  · contradiction
  · rfl

theorem MayLose.entry {line line' : Text} (h : MayLose r r') (hline : MayReturn line line') :
    MayLose (r.entry line) (r'.entry line') := by
  have hcurrent := h.current
  by_cases hobjects : r.current = .objects
  · rw [entry_of_objects hobjects, entry_of_objects (hcurrent.trans hobjects)]
    rcases leftmost?_objectHere?_of_mayReturn hline with hsame | ⟨lost, hfound', hpath, hindex⟩
    · rw [hsame]
      cases leftmost? objectHere? line with
      | none => exact h
      | some o => exact h.addObject o
    · have hlost := h.addObject_pathless hpath
      rw [hfound']
      cases hfound : leftmost? objectHere? line with
      | none => exact hlost
      | some o =>
          refine hlost.addObject_lost ?_
          rw [Reading.addObject, ObjectTable.find?_insert, hindex o hfound, if_pos rfl, ← hpath]
  · by_cases hsymbols : r.current = .symbols
    · rw [entry_of_symbols hsymbols, entry_of_symbols (hcurrent.trans hsymbols)]
      rcases leftmost?_symbolHere?_of_mayReturn hline with hsame | ⟨s, hfound', hname⟩
      · rw [hsame]
        cases leftmost? symbolHere? line with
        | none => exact h
        | some s => exact h.addSymbol s
      · rw [hfound']
        cases leftmost? symbolHere? line with
        | none => exact h.addSymbol_nameless hname rfl rfl
        | some s' => exact h.addSymbol_nameless hname rfl rfl
    · rw [entry_of_elsewhere hobjects hsymbols,
        entry_of_elsewhere (hcurrent ▸ hobjects) (hcurrent ▸ hsymbols)]
      exact h

theorem MayLose.lines {block block' : List Text} (h : MayLose r r')
    (hblock : List.Forall₂ MayReturn block block') : MayLose (r.lines block) (r'.lines block') := by
  induction hblock generalizing r r' with
  | nil => exact h
  | cons hline _ ih =>
      rw [Reading.lines, Reading.lines, heading_of_mayReturn hline]
      split
      · exact ih ⟨rfl, h.objects, h.symbols⟩
      · exact h
      · exact ih (h.entry hline)

structure IsNamed (r : Reading) : Prop where
  paths : ∀ o ∈ r.objects.toList, o.path ≠ []
  names : ∀ s ∈ r.symbols, s.name ≠ []

theorem IsNamed.entry {line : Text} (h : IsNamed r) (hline : '\r' ∉ line) :
    IsNamed (r.entry line) := by
  by_cases hobjects : r.current = .objects
  · rw [entry_of_objects hobjects]
    cases hfound : leftmost? objectHere? line with
    | none => exact h
    | some o =>
        refine ⟨?_, h.names⟩
        intro p hp
        rcases ObjectTable.eq_or_mem_of_mem_insertInto hp with rfl | hold
        · obtain ⟨entry, hsuffix, hhere⟩ := exists_suffix_of_leftmost? hfound
          exact path_ne_nil_of_objectHere? hhere fun hmem => hline (hsuffix.subset hmem)
        · exact h.paths p hold
  · by_cases hsymbols : r.current = .symbols
    · rw [entry_of_symbols hsymbols]
      cases hfound : leftmost? symbolHere? line with
      | none => exact h
      | some s =>
          refine ⟨h.paths, List.forall_mem_cons.mpr ⟨?_, h.names⟩⟩
          obtain ⟨entry, hsuffix, hhere⟩ := exists_suffix_of_leftmost? hfound
          exact name_ne_nil_of_symbolHere? hhere fun hmem => hline (hsuffix.subset hmem)
    · rw [entry_of_elsewhere hobjects hsymbols]
      exact h

theorem IsNamed.lines {block : List Text} (h : IsNamed r)
    (hblock : ∀ line ∈ block, '\r' ∉ line) : IsNamed (r.lines block) := by
  induction block generalizing r with
  | nil => exact h
  | cons line block ih =>
      rw [List.forall_mem_cons] at hblock
      rw [Reading.lines]
      split
      · exact ih ⟨h.paths, h.names⟩ hblock.2
      · exact h
      · exact ih (h.entry hblock.1) hblock.2

end Reading

/-! Texts. -/

end LinkAudit.LinkMap
