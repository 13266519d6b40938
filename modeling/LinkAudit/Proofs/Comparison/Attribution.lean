import LinkAudit.Proofs.Comparison.Duplicates
import LinkAudit.Proofs.Comparison.Files
import LinkAudit.Proofs.Source.Attribution

/-!
The sources that a report gives. What the name of a symbol says as a literal never shows in a
report, since such a name is noise: the hint for a reported symbol is that for its object, which the
object's file shares. In a project whose index was built from its tree every source in a report is
therefore a source of the object that it is given for.
-/

namespace LinkAudit

variable {project : Project} {debug release : LinkMap} {text? : Text → Option Text}

namespace Survey

/-- Symbols of one object share their hint, whatever their names are. -/
theorem hint_eq_of_objectIndex_eq {f g : Finding}
    (hf : f ∈ (ofMaps project debug release).findings text?)
    (hg : g ∈ (ofMaps project debug release).findings text?)
    (hindex : f.symbol.objectIndex = g.symbol.objectIndex) : f.hint = g.hint := by
  obtain ⟨o, hobject, -, -, -, hhint⟩ := exists_object_of_mem_findings hf
  obtain ⟨o', hobject', -, -, -, hhint'⟩ := exists_object_of_mem_findings hg
  have hsame : debug.objectOf? f.symbol = debug.objectOf? g.symbol := by
    rw [LinkMap.objectOf?, LinkMap.objectOf?, hindex]
  rw [hobject, hobject'] at hsame
  rw [hhint, hhint', hsame]

theorem exists_finding_of_mem_survivors {v : Survey} {s : HintedSymbol} (hs : s ∈ v.survivors)
    (hquiet : ∀ t, text? s.1.name = some t → Noise.inDemangled t = false) :
    ∃ f ∈ v.findings text?, f.symbol = s.1 ∧ f.hint = s.2 :=
  ⟨_, mem_findings.mpr ⟨s, hs, finding?_eq_some_iff.mpr ⟨hquiet, rfl⟩⟩, rfl, rfl⟩

/-- A reported file is what the project says of an object of the debug build. -/
theorem exists_unusedFile_of_mem_files {file : UnusedFile}
    (h : file ∈ (ofMaps project debug release).files project
      ((ofMaps project debug release).findings text?)) :
    ∃ o ∈ debug.objects.toList, file = project.unusedFile o := by
  rw [files_eq_map_unusedObjects] at h
  obtain ⟨o, ho, rfl⟩ := List.mem_map.mp h
  exact ⟨o, (mem_unusedObjects.mp ho).listed, rfl⟩

end Survey

/-- One object, one hint. The hint for a reported symbol is that for its object without regard to
the symbol's name, so that all reported symbols of an object have the same hint. The file of the
object shows what that hint shows, and has its source where the hint has one. -/
theorem hint_of_reported_eq_hint_of_object (project : Project) (demangles : Bool)
    (reader : NameReader) (debug release : LinkMap) :
    let analysis := analyze project demangles reader debug release
    (∀ f ∈ analysis.findings, f.hint = project.hint (debug.objectOf? f.symbol) none) ∧
      (∀ f ∈ analysis.findings, ∀ g ∈ analysis.findings,
        f.symbol.objectIndex = g.symbol.objectIndex → f.hint = g.hint) ∧
      ∀ f ∈ analysis.findings, ∃ o, debug.objectOf? f.symbol = some o ∧
        ∀ file ∈ analysis.files, file.objectPath = o.path →
          file.display = f.hint.display ∧ file.hasSource = f.hint.hasSource ∧
            (f.hint.hasSource = true → file.source = f.hint.path) := by
  intro analysis
  refine ⟨?_, fun f hf g hg => Survey.hint_eq_of_objectIndex_eq hf hg, ?_⟩
  · intro f hf
    obtain ⟨o, hobject, -, -, -, hhint⟩ := Survey.exists_object_of_mem_findings hf
    rw [hhint, hobject]
  · intro f hf
    obtain ⟨o, hobject, -, -, -, hhint⟩ := Survey.exists_object_of_mem_findings hf
    refine ⟨o, hobject, ?_⟩
    intro file hfile hpath
    obtain ⟨o', -, rfl⟩ := Survey.exists_unusedFile_of_mem_files hfile
    -- the file is determined by the path alone
    have hsame : o'.path = o.path := hpath
    rw [project.unusedFile_eq_of_path_eq hsame, hhint]
    exact ⟨rfl, rfl, fun hsource => if_pos hsource⟩

def sourcedTree : FileTree where
  root := .mk [] [("p".toList, .mk [("App.swift".toList, [])] [])]
  current := []

def sourcedProject : Project where
  tree := sourcedTree
  root := some (Path.ofText "/p".toList)
  index := .ofFiles (SourceIndex.sourcesBelow sourcedTree false (Path.ofText "/p".toList))

def soleBuild : LinkMap where
  objects := ⟨[⟨1, "/b/App.o".toList⟩], by decide⟩
  symbols := [⟨0x1000, 16, 1, "_$s3App4loadyyF".toList⟩]
  lineCount := 6

def twinBuild : LinkMap where
  objects := soleBuild.objects
  symbols := soleBuild.symbols ++ [⟨0x1010, 16, 1, "_$s3App4pingyyF".toList⟩]
  lineCount := 7

theorem exists_finding_soleBuild :
    ∃ f ∈ (analyze sourcedProject false (fun _ _ => none) soleBuild emptyBuild).findings,
      f.hint.hasSource = true := by
  have hsources : (analyze sourcedProject false (fun _ _ => none) soleBuild
      emptyBuild).findings.map (·.hint.hasSource) = [true] := by
    decide +kernel
  apply List.mem_map.mp
  rw [hsources]
  exact List.mem_cons_self

theorem exists_file_soleBuild :
    ∃ file ∈ (analyze sourcedProject false (fun _ _ => none) soleBuild emptyBuild).files,
      file.objectPath = "/b/App.o".toList ∧ file.hasSource = true := by
  have hfiles : (analyze sourcedProject false (fun _ _ => none) soleBuild
      emptyBuild).files.map (fun file => (file.objectPath, file.hasSource)) =
        [("/b/App.o".toList, true)] := by
    decide +kernel
  have hmem : ("/b/App.o".toList, true) ∈ (analyze sourcedProject false (fun _ _ => none) soleBuild
      emptyBuild).files.map fun file => (file.objectPath, file.hasSource) := by
    rw [hfiles]
    exact List.mem_cons_self
  obtain ⟨file, hfile, heq⟩ := List.mem_map.mp hmem
  exact ⟨file, hfile, (Prod.mk.inj heq).1, (Prod.mk.inj heq).2⟩

theorem exists_finding_twinBuild {s : Symbol} (hs : s ∈ twinBuild.symbols) :
    ∃ f ∈ (analyze sourcedProject false (fun _ _ => none) twinBuild emptyBuild).findings,
      f.symbol = s := by
  have hsurvivors : (Survey.ofMaps sourcedProject twinBuild emptyBuild).survivors.map (·.1) =
      twinBuild.symbols := by
    decide +kernel
  rw [← hsurvivors] at hs
  obtain ⟨survivor, hmem, rfl⟩ := List.mem_map.mp hs
  obtain ⟨f, hf, hsymbol, -⟩ :
      ∃ f ∈ (Survey.ofMaps sourcedProject twinBuild emptyBuild).findings fun _ => none,
        f.symbol = survivor.1 ∧ f.hint = survivor.2 :=
    Survey.exists_finding_of_mem_survivors hmem (by simp)
  exact ⟨f, hf, hsymbol⟩

theorem hint_eq_twinBuild :
    (∃ f ∈ (analyze sourcedProject false (fun _ _ => none) twinBuild emptyBuild).findings,
      ∃ g ∈ (analyze sourcedProject false (fun _ _ => none) twinBuild emptyBuild).findings,
        f.symbol ≠ g.symbol ∧ f.symbol.objectIndex = g.symbol.objectIndex ∧ f.hint = g.hint) ∧
    ∃ f ∈ (analyze sourcedProject false (fun _ _ => none) soleBuild emptyBuild).findings,
      ∃ file ∈ (analyze sourcedProject false (fun _ _ => none) soleBuild emptyBuild).files,
        f.hint.hasSource = true ∧ file.display = f.hint.display ∧ file.source = f.hint.path := by
  constructor
  · obtain ⟨f, hf, hload⟩ := exists_finding_twinBuild List.mem_cons_self
    obtain ⟨g, hg, hping⟩ := exists_finding_twinBuild (List.mem_cons_of_mem _ List.mem_cons_self)
    have hindex : f.symbol.objectIndex = g.symbol.objectIndex := by rw [hload, hping]
    refine ⟨f, hf, g, hg, ?_, hindex, ?_⟩
    · rw [hload, hping]
      decide
    · exact (hint_of_reported_eq_hint_of_object _ _ _ _ _).2.1 f hf g hg hindex
  · obtain ⟨f, hf, hsource⟩ := exists_finding_soleBuild
    obtain ⟨file, hfile, hpath, -⟩ := exists_file_soleBuild
    obtain ⟨o, hobject, hshared⟩ := (hint_of_reported_eq_hint_of_object _ _ _ _ _).2.2 f hf
    have ho : o.path = "/b/App.o".toList := by
      have hlisted := (ObjectTable.find?_eq_some_iff.mp hobject).1
      rw [List.mem_singleton.mp hlisted]
    obtain ⟨hdisplay, -, hfileSource⟩ := hshared file hfile (hpath.trans ho.symm)
    exact ⟨f, hf, file, hfile, hsource, hdisplay, hfileSource hsource⟩

/-- Sources are given only where they were found, and they are sources of the objects that they are
given for. -/
theorem isSourceOf_of_reported (project : Project) (withDependencies : Bool)
    (hproject : project.IsFresh withDependencies) (demangles : Bool) (reader : NameReader)
    (debug release : LinkMap) :
    let analysis := analyze project demangles reader debug release
    (∀ f ∈ analysis.findings, ∃ owner, f.owner = some owner ∧
      debug.objectOf? f.symbol = some owner.object ∧
      (f.hint.hasSource = true → ∃ path, f.hint.path = some path ∧ owner.source = some path ∧
        IsSourceOf project.tree project.root path owner.object.path) ∧
      (f.hint.hasSource = false → owner.source = none)) ∧
    ∀ file ∈ analysis.files,
      (file.hasSource = true → ∃ path, file.source = some path ∧
        IsSourceOf project.tree project.root path file.objectPath) ∧
      (file.hasSource = false → file.source = none) := by
  intro analysis
  constructor
  · intro f hf
    obtain ⟨o, hobject, -, -, -, hhint⟩ := Survey.exists_object_of_mem_findings hf
    have howner := Survey.owner_of_mem_findings hf
    rw [hobject] at howner
    refine ⟨_, howner, hobject, ?_, fun hnone => by simp [hnone]⟩
    intro hsource
    rw [hhint] at hsource
    obtain ⟨path, hpath, hsourceOf⟩ := hproject.isSourceOf_of_hasSource hsource
    rw [hhint]
    exact ⟨path, hpath, by simp [hsource, hpath], hsourceOf⟩
  · intro file hfile
    obtain ⟨o, -, rfl⟩ := Survey.exists_unusedFile_of_mem_files hfile
    constructor
    · intro hsource
      obtain ⟨path, hpath, hsourceOf⟩ := hproject.isSourceOf_of_hasSource hsource
      exact ⟨path, (if_pos hsource).trans hpath, hsourceOf⟩
    · intro hnone
      exact if_neg (by rw [show (project.hint (some o) none).hasSource = false from hnone]; simp)

theorem isFresh_sourcedProject : sourcedProject.IsFresh false := ⟨rfl, rfl⟩

theorem isSourceOf_soleBuild :
    sourcedProject.IsFresh false ∧
      (∃ f ∈ (analyze sourcedProject false (fun _ _ => none) soleBuild emptyBuild).findings,
        ∃ owner path, f.owner = some owner ∧ f.hint.path = some path ∧ owner.source = some path ∧
          IsSourceOf sourcedTree sourcedProject.root path owner.object.path) ∧
      ∃ file ∈ (analyze sourcedProject false (fun _ _ => none) soleBuild emptyBuild).files,
        ∃ path, file.source = some path ∧
          IsSourceOf sourcedTree sourcedProject.root path file.objectPath := by
  have hsound := isSourceOf_of_reported sourcedProject false isFresh_sourcedProject false
    (fun _ _ => none) soleBuild emptyBuild
  obtain ⟨f, hf, hsource⟩ := exists_finding_soleBuild
  obtain ⟨file, hfile, -, hfileSource⟩ := exists_file_soleBuild
  obtain ⟨owner, howner, -, hfound, -⟩ := hsound.1 f hf
  obtain ⟨path, hpath, hownerSource, hsourceOf⟩ := hfound hsource
  exact ⟨isFresh_sourcedProject, ⟨f, hf, owner, path, howner, hpath, hownerSource, hsourceOf⟩,
    file, hfile, (hsound.2 file hfile).1 hfileSource⟩

end LinkAudit
