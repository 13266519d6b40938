import LinkAudit.Comparison.Survey
import LinkAudit.Proofs.Comparison.Release
import LinkAudit.Proofs.FirstBy
import LinkAudit.Proofs.Source.Hint

/-!
The survey of a debug build, one symbol at a time. Each stage of the survey up to the choice of
first symbols asks for a symbol's name alone, so that the stages amount to one condition on a debug
symbol (`IsSurvivor`), and no two survivors share a name.
-/

namespace LinkAudit

variable {project : Project} {debug release : LinkMap}

theorem isInModules_iff {modules : List Text} {name : Text} :
    isInModules modules name = true ↔
      ∀ home, moduleOf? name = some home → modules = [] ∨ home ∈ modules := by
  rw [isInModules]
  cases moduleOf? name with
  | none => simp
  | some home => simp

theorem isIgnored_eq_false_iff {o : Option ObjectFile} :
    isIgnored o = false ↔ ∃ object, o = some object ∧ object.isForeign = false := by
  cases o with
  | none => simp [isIgnored]
  | some object => simp [isIgnored]

/-- Sources are needed once more than eight objects are found in the index. -/
theorem isSourced_iff {count : Nat} {hint : SourceHint} :
    (!decide (sourceThreshold < count) || hint.hasSource) = true ↔
      (8 < count → hint.hasSource = true) := by
  change (!decide (8 < count) || hint.hasSource) = true ↔ _
  rw [Bool.or_eq_true, Bool.not_eq_true', decide_eq_false_iff_not, ← Decidable.imp_iff_not_or]

def Project.symbolHint (p : Project) (m : LinkMap) (s : Symbol) : SourceHint :=
  p.hint (m.objectOf? s) (p.literalHint? s.name)

/-- What it takes for a debug symbol to be left when names are about to be demangled. -/
structure IsSurvivor (project : Project) (debug release : LinkMap) (s : Symbol) : Prop where
  first : debug.symbols.find? (·.name == s.name) = some s
  owned : ∃ o, debug.objectOf? s = some o ∧ o.isForeign = false
  atHome : ∀ home, moduleOf? s.name = some home →
    Modules.ofProject debug = [] ∨ home ∈ Modules.ofProject debug
  reportable : isReportable Mangled.reportableKinds (Modules.ofProject debug) s.name = true
  missing : ¬release.Keeps s.name
  sourced : 8 < indexedCount project debug → (project.symbolHint debug s).hasSource = true

namespace Survey

/-- Whether a name is of the debug build's modules and not kept by the release. -/
def isRawName (debug : LinkMap) (side : ReleaseSide) (name : Text) : Bool :=
  isInModules (Modules.ofProject debug) name && !side.keptNames.contains name

theorem raw_eq_filter :
    (ofMaps project debug release).raw = debug.symbols.filter fun s =>
      isRawName debug (ReleaseSide.ofMap release project.tree.here) s.name := by
  simp only [ofMaps, List.filter_filter, isRawName, Bool.and_comm]

theorem mem_considered {s : Symbol} :
    s ∈ (ofMaps project debug release).considered ↔
      s ∈ debug.symbols ∧ isInModules (Modules.ofProject debug) s.name = true :=
  List.mem_filter

theorem mem_attributed {s : Symbol} :
    s ∈ attributed debug (ofMaps project debug release).raw ↔
      debug.symbols.find? (·.name == s.name) = some s ∧
        isInModules (Modules.ofProject debug) s.name = true ∧ ¬release.Keeps s.name ∧
        ∃ o, debug.objectOf? s = some o ∧ o.isForeign = false := by
  rw [attributed, List.mem_filter, raw_eq_filter, mem_firstBy_filter_key, isRawName,
    Bool.and_eq_true, Bool.not_eq_true', ← Bool.not_eq_true,
    ReleaseSide.contains_keptNames_iff, Bool.not_eq_true', isIgnored_eq_false_iff]
  constructor
  · rintro ⟨⟨⟨hhome, hmissing⟩, hfirst⟩, howned⟩
    exact ⟨hfirst, hhome, hmissing, howned⟩
  · rintro ⟨hfirst, hhome, hmissing, howned⟩
    exact ⟨⟨⟨hhome, hmissing⟩, hfirst⟩, howned⟩

theorem mem_hinted {s : Symbol} {hint : SourceHint} :
    (s, hint) ∈ (ofMaps project debug release).hinted ↔
      s ∈ attributed debug (ofMaps project debug release).raw ∧
        hint = project.symbolHint debug s ∧
        (8 < indexedCount project debug → hint.hasSource = true) := by
  refine List.mem_filter.trans ?_
  rw [List.mem_map]
  constructor
  · rintro ⟨⟨s', hs', heq⟩, hsourced⟩
    obtain ⟨rfl, rfl⟩ := Prod.mk.inj heq
    exact ⟨hs', rfl, isSourced_iff.mp hsourced⟩
  · rintro ⟨hs, rfl, hsourced⟩
    exact ⟨⟨s, hs, rfl⟩, isSourced_iff.mpr hsourced⟩

theorem mem_survivors {s : Symbol} {hint : SourceHint} :
    (s, hint) ∈ (ofMaps project debug release).survivors ↔
      IsSurvivor project debug release s ∧ hint = project.symbolHint debug s := by
  rw [survivors, List.mem_filter, mem_hinted, mem_attributed, isInModules_iff]
  constructor
  · rintro ⟨⟨⟨hfirst, hhome, hmissing, howned⟩, rfl, hsourced⟩, hkept⟩
    exact ⟨⟨hfirst, howned, hhome, hkept, hmissing, hsourced⟩, rfl⟩
  · rintro ⟨h, rfl⟩
    exact ⟨⟨⟨h.first, h.atHome, h.missing, h.owned⟩, rfl, h.sourced⟩, h.reportable⟩

theorem map_fst_hinted_sublist :
    ((ofMaps project debug release).hinted.map (·.1)).Sublist
      (attributed debug (ofMaps project debug release).raw) := by
  have hneeded : (ofMaps project debug release).hinted.Sublist
      ((attributed debug (ofMaps project debug release).raw).map fun s =>
        (s, project.symbolHint debug s)) := List.filter_sublist
  simpa [Function.comp_def] using hneeded.map (·.1)

/-- After the choice of first symbols, each stage only leaves symbols out. -/
theorem nodup_names_hinted :
    ((ofMaps project debug release).hinted.map (·.1.name)).Nodup := by
  have hattributed : (attributed debug (ofMaps project debug release).raw).Sublist
      (firstBy (·.name) (ofMaps project debug release).raw) := List.filter_sublist
  have hnames := (map_fst_hinted_sublist.trans hattributed).map (·.name)
  rw [List.map_map] at hnames
  exact (nodup_map_firstBy _ _).sublist hnames

/-- No two survivors share a name. -/
theorem nodup_names_survivors :
    ((ofMaps project debug release).survivors.map (·.1.name)).Nodup := by
  have hkept : (ofMaps project debug release).survivors.Sublist
      (ofMaps project debug release).hinted := List.filter_sublist
  exact nodup_names_hinted.sublist (hkept.map (·.1.name))

end Survey

end LinkAudit
