import LinkAudit.Proofs.Comparison.Findings

/-!
Names that the debug listing has more than once. Of the symbols of one name only the first is kept,
before anything is asked about its object, so that a name is reported on account of its first symbol
or not at all. Where any symbol of a name meets all other conditions, the name is therefore lost
exactly if the first one comes from no object of the project or lacks the source it needs.
-/

namespace LinkAudit

/-- A symbol can be attributed if it came from an object of the project and has the source that is
needed. -/
structure IsAttributable (project : Project) (debug : LinkMap) (s : Symbol) : Prop where
  owned : ∃ o, debug.objectOf? s = some o ∧ o.isForeign = false
  sourced : 8 < indexedCount project debug → (project.symbolHint debug s).hasSource = true

/-- What it takes for a debug symbol to be reported, except that it be the first of its name. -/
structure IsCandidate (project : Project) (debug release : LinkMap) (s : Symbol) : Prop
    extends IsAttributable project debug s where
  listed : s ∈ debug.symbols
  atHome : isInModules (Modules.ofProject debug) s.name = true
  reportable : isReportable Mangled.reportableKinds (Modules.ofProject debug) s.name = true
  missing : ¬release.Keeps s.name

variable {project : Project} {debug release : LinkMap} {s first : Symbol}

/-- A listed name has a first symbol. -/
theorem exists_first_of_mem (h : s ∈ debug.symbols) :
    ∃ first, debug.symbols.find? (·.name == s.name) = some first := by
  rw [← Option.isSome_iff_exists, List.find?_isSome]
  exact ⟨s, h, beq_self_eq_true _⟩

/-- Of what a survivor needs, only the attribution depends on which symbol of its name it is. -/
theorem isSurvivor_first_iff (hs : IsCandidate project debug release s)
    (hfirst : debug.symbols.find? (·.name == s.name) = some first) :
    IsSurvivor project debug release first ↔ IsAttributable project debug first := by
  have hname : first.name = s.name := by simpa using List.find?_some hfirst
  constructor
  · intro h
    exact ⟨h.owned, h.sourced⟩
  · rintro ⟨howned, hsourced⟩
    refine ⟨?_, howned, ?_, ?_, ?_, hsourced⟩ <;> rw [hname]
    · exact hfirst
    · exact isInModules_iff.mp hs.atHome
    · exact hs.reportable
    · exact hs.missing

/-- Without demangling each survivor is reported. -/
theorem mem_symbols_analyze_iff (reader : NameReader) :
    s ∈ (analyze project false reader debug release).findings.map (·.symbol) ↔
      IsSurvivor project debug release s := by
  rw [findings_analyze, Survey.answers_false, Survey.mem_symbols_findings]
  simp

/-- A name with a candidate among its symbols is reported if and only if its first symbol can be
attributed, and that symbol is the one reported for it. -/
theorem reported_iff_isAttributable_first (project : Project) (reader : NameReader)
    (debug release : LinkMap) (s : Symbol) (hs : IsCandidate project debug release s) :
    let findings := (analyze project false reader debug release).findings
    ∃ first, debug.symbols.find? (·.name == s.name) = some first ∧
      ((∃ f ∈ findings, f.symbol.name = s.name) ↔ IsAttributable project debug first) ∧
      ∀ f ∈ findings, f.symbol.name = s.name → f.symbol = first := by
  intro findings
  obtain ⟨first, hfirst⟩ := exists_first_of_mem hs.listed
  have hreported : ∀ f ∈ findings, f.symbol.name = s.name → f.symbol = first := by
    intro f hf hname
    have hsurvivor := Survey.isSurvivor_of_mem_findings hf
    rw [← hname] at hfirst
    exact Option.some.inj (hsurvivor.first.symm.trans hfirst)
  refine ⟨first, hfirst, ?_, hreported⟩
  rw [← isSurvivor_first_iff hs hfirst, ← mem_symbols_analyze_iff reader, List.mem_map]
  constructor
  · rintro ⟨f, hf, hname⟩
    exact ⟨f, hf, hreported f hf hname⟩
  · rintro ⟨f, hf, rfl⟩
    exact ⟨f, hf, by simpa using List.find?_some hfirst⟩

def emptyBuild : LinkMap := ⟨.empty, [], 0⟩

/-- A build in which a dependency and the application share two functions. The dependency comes first
for one of them and second for the other. -/
def sharingBuild : LinkMap where
  objects := ⟨[⟨1, "/b/Pods/Lib.o".toList⟩, ⟨2, "/b/App.o".toList⟩], by decide⟩
  symbols :=
    [⟨0x1000, 16, 1, "_$s3App4loadyyF".toList⟩, ⟨0x1010, 16, 2, "_$s3App4loadyyF".toList⟩,
     ⟨0x1020, 16, 2, "_$s3App4pingyyF".toList⟩, ⟨0x1030, 16, 1, "_$s3App4pingyyF".toList⟩]
  lineCount := 10

theorem isCandidate_sharingBuild (s : Symbol) (hs : s ∈ sharingBuild.symbols)
    (hindex : s.objectIndex = 2) : IsCandidate bareProject sharingBuild emptyBuild s where
  owned := by
    refine ⟨⟨2, "/b/App.o".toList⟩, ?_, by decide +kernel⟩
    rw [LinkMap.objectOf?, hindex]
    rfl
  sourced h := by
    have hcount : indexedCount bareProject sharingBuild = 0 := by decide +kernel
    omega
  listed := hs
  atHome := by
    revert s
    decide +kernel
  reportable := by
    revert s
    decide +kernel
  missing := by
    rintro ⟨⟨r, hr, -⟩, -⟩
    exact List.not_mem_nil hr

/-- A name can be lost although one of its symbols is a candidate. -/
theorem not_forall_candidate_reported :
    ¬∀ s, IsCandidate bareProject sharingBuild emptyBuild s →
      ∃ f ∈ (analyze bareProject false (fun _ _ => none) sharingBuild emptyBuild).findings,
        f.symbol.name = s.name := by
  intro h
  have hnames : (analyze bareProject false (fun _ _ => none) sharingBuild
      emptyBuild).findings.map (·.symbol.name) = ["_$s3App4pingyyF".toList] := by
    decide +kernel
  obtain ⟨f, hf, hname⟩ :=
    h ⟨0x1010, 16, 2, "_$s3App4loadyyF".toList⟩ (isCandidate_sharingBuild _ (by decide) rfl)
  have hmem := List.mem_map_of_mem (f := (·.symbol.name)) hf
  rw [hnames, hname] at hmem
  revert hmem
  decide

theorem reported_sharingBuild :
    IsCandidate bareProject sharingBuild emptyBuild ⟨0x1020, 16, 2, "_$s3App4pingyyF".toList⟩ ∧
      ∃ f ∈ (analyze bareProject false (fun _ _ => none) sharingBuild emptyBuild).findings,
        f.symbol.name = "_$s3App4pingyyF".toList := by
  have hs := isCandidate_sharingBuild ⟨0x1020, 16, 2, "_$s3App4pingyyF".toList⟩ (by decide) rfl
  obtain ⟨first, hfirst, hreported, -⟩ :=
    reported_iff_isAttributable_first bareProject (fun _ _ => none) _ _ _ hs
  obtain rfl : ⟨0x1020, 16, 2, "_$s3App4pingyyF".toList⟩ = first := Option.some.inj hfirst
  exact ⟨hs, hreported.mpr hs.toIsAttributable⟩

end LinkAudit
