import LinkAudit.Proofs.Comparison.Findings
import LinkAudit.Proofs.LinkMap.Relisting

/-!
Comparisons of debug builds under other numbers. The numbers of the debug build's objects are
carried through every stage of a comparison and decide nothing, so that a survey with other numbers
comes to the same conclusion with the other numbers in it.
-/

namespace LinkAudit

variable {ρ : Nat ↪ Nat}

/-! The debug build under other numbers. -/

def Owner.renumber (ρ : Nat ↪ Nat) (w : Owner) : Owner := { w with object := w.object.renumber ρ }

def Finding.renumber (ρ : Nat ↪ Nat) (f : Finding) : Finding :=
  { f with symbol := f.symbol.renumber ρ, owner := f.owner.map (·.renumber ρ) }

/-- The analysis with other numbers for the objects of the debug build. -/
def Analysis.renumber (ρ : Nat ↪ Nat) (a : Analysis) : Analysis :=
  { a with findings := a.findings.map (·.renumber ρ) }

def HintedSymbol.renumber (ρ : Nat ↪ Nat) (s : HintedSymbol) : HintedSymbol :=
  (s.1.renumber ρ, s.2)

def Survey.renumber (ρ : Nat ↪ Nat) (v : Survey) : Survey :=
  { v with
    debug := v.debug.renumber ρ
    considered := v.considered.map (·.renumber ρ)
    raw := v.raw.map (·.renumber ρ)
    hinted := v.hinted.map (HintedSymbol.renumber ρ) }

@[simp] theorem Project.hint_map_renumber (p : Project) (o : Option ObjectFile)
    (literal : Option SourceHint) : p.hint (o.map (·.renumber ρ)) literal = p.hint o literal := by
  cases o <;> rfl

@[simp] theorem indexedCount_renumber (project : Project) (debug : LinkMap) :
    indexedCount project (debug.renumber ρ) = indexedCount project debug := by
  rw [indexedCount, LinkMap.objects_renumber, ObjectTable.toList_renumber, List.countP_map]
  rfl

@[simp] theorem attributed_renumber (debug : LinkMap) (raw : List Symbol) :
    attributed (debug.renumber ρ) (raw.map (·.renumber ρ)) =
      (attributed debug raw).map (·.renumber ρ) := by
  have hfirst : firstBy (·.name) (raw.map (·.renumber ρ)) =
      (firstBy (·.name) raw).map (·.renumber ρ) := firstBy_map (fun _ _ => Iff.rfl) raw
  rw [attributed, hfirst, List.filter_map]
  simp only [Function.comp_def, LinkMap.objectOf?_renumber, isIgnored_map_renumber]
  rfl

namespace Survey

theorem ofMaps_renumber (project : Project) (debug release : LinkMap) :
    ofMaps project (debug.renumber ρ) release = (ofMaps project debug release).renumber ρ := by
  simp only [ofMaps, renumber, Modules.ofProject_renumber, LinkMap.symbols_renumber,
    List.filter_map, Function.comp_def, Symbol.name_renumber, attributed_renumber, List.map_map,
    LinkMap.objectOf?_renumber, Project.hint_map_renumber, indexedCount_renumber,
    HintedSymbol.renumber]

variable (v : Survey)

@[simp] theorem debug_renumber : (v.renumber ρ).debug = v.debug.renumber ρ := rfl

@[simp] theorem release_renumber : (v.renumber ρ).release = v.release := rfl

@[simp] theorem considered_renumber :
    (v.renumber ρ).considered = v.considered.map (·.renumber ρ) := rfl

@[simp] theorem raw_renumber : (v.renumber ρ).raw = v.raw.map (·.renumber ρ) := rfl

@[simp] theorem hinted_renumber :
    (v.renumber ρ).hinted = v.hinted.map (HintedSymbol.renumber ρ) := rfl

@[simp] theorem survivors_renumber :
    (v.renumber ρ).survivors = v.survivors.map (HintedSymbol.renumber ρ) := by
  rw [survivors, hinted_renumber, List.filter_map]
  rfl

@[simp] theorem displayModules_renumber : (v.renumber ρ).displayModules = v.displayModules := by
  rw [displayModules, hinted_renumber, List.map_map]
  rfl

/-- The demangler is asked the same. -/
theorem answers_renumber (demangles : Bool) (reader : NameReader) :
    (v.renumber ρ).answers demangles reader = v.answers demangles reader := by
  have hnames : (v.renumber ρ).survivors.map (·.1.name) = v.survivors.map (·.1.name) := by
    rw [survivors_renumber, List.map_map]
    rfl
  rw [answers, answers, question?, question?, hnames]

theorem finding?_renumber (modules : List Text) (s : HintedSymbol) (text : Option Text) :
    (v.renumber ρ).finding? modules (s.renumber ρ) text =
      (v.finding? modules s text).map (·.renumber ρ) := by
  rw [finding?, finding?]
  split
  · rfl
  · simp only [HintedSymbol.renumber, debug_renumber, LinkMap.objectOf?_renumber, Option.map_map,
      Option.map_some, Finding.renumber]
    rfl

theorem findings_renumber (text? : Text → Option Text) :
    (v.renumber ρ).findings text? = (v.findings text?).map (·.renumber ρ) := by
  rw [findings, findings, List.map_mergeSort (s := fun a b => (Finding.order a b).isLE)]
  · rw [survivors_renumber, displayModules_renumber, List.filterMap_map, List.map_filterMap]
    simp only [Function.comp_def, finding?_renumber]
    rfl
  · intro a _ b _
    rfl

theorem contains_keptObjects_renumber (index : Nat) :
    (v.renumber ρ).keptObjects.contains (ρ index) = v.keptObjects.contains index := by
  simp only [keptObjects, considered_renumber, release_renumber, List.filter_map,
    Function.comp_def, Symbol.name_renumber, contains_objectIndices_renumber]

theorem filesOfFindings_renumber (findings : List Finding) :
    ((v.renumber ρ).filesOfFindings (findings.map (·.renumber ρ))).map (·.2) =
      (v.filesOfFindings findings).map (·.2) := by
  -- the one stage that looks for first elements by number: different numbers have to stay different
  have hfirst : firstBy (·.symbol.objectIndex) (findings.map (·.renumber ρ)) =
      (firstBy (·.symbol.objectIndex) findings).map (·.renumber ρ) := by
    apply firstBy_map
    intro f g
    exact ρ.apply_eq_iff_eq _ _
  rw [filesOfFindings, filesOfFindings, hfirst, List.filterMap_map, List.map_filterMap,
    List.map_filterMap]
  apply List.filterMap_congr
  intro f _
  simp only [Function.comp_apply, Finding.renumber, Symbol.objectIndex_renumber,
    contains_keptObjects_renumber]
  split
  · rfl
  · simp only [Option.map_map]
    rfl

theorem filesOfIdleObjects_renumber (now : Project) :
    (v.renumber ρ).filesOfIdleObjects now = v.filesOfIdleObjects now := by
  simp only [filesOfIdleObjects, considered_renumber, debug_renumber, LinkMap.objects_renumber,
    ObjectTable.toList_renumber, List.filterMap_map, Function.comp_def, ObjectFile.index_renumber,
    contains_objectIndices_renumber]
  rfl

theorem conclude_renumber (now : Project) (text? : Text → Option Text) :
    (v.renumber ρ).conclude now text? = (v.conclude now text?).renumber ρ := by
  simp only [conclude, findings_renumber, files, filesOfFindings_renumber,
    filesOfIdleObjects_renumber, displayModules_renumber, survivors_renumber, debug_renumber,
    LinkMap.symbols_renumber, raw_renumber, hinted_renumber, release_renumber, List.length_map,
    Symbol.totalSize_map_renumber, Analysis.renumber]
  rfl

end Survey

end LinkAudit
