import LinkAudit.Proofs.Comparison.Files

/-!
Comparisons that have nothing to report. A release covers a debug build if it is about the same
modules and has every name and every object of the debug build, by whatever numbers and in whatever
order. Nothing is reported of a build that the release covers, and every build covers itself.
-/

namespace LinkAudit

/-- A release covers a debug build if both are about the same modules and the release has every name
of the debug build and, by its normal path, every object. -/
structure LinkMap.Covers (current : Path) (release debug : LinkMap) : Prop where
  modules : Modules.ofProject debug = Modules.ofProject release
  names : ∀ s ∈ debug.symbols, release.HasName s.name
  objects : ∀ o ∈ debug.objects.toList, ∃ r ∈ release.objects.toList,
    r.normalPath current = o.normalPath current

theorem LinkMap.Covers.refl (current : Path) (m : LinkMap) : m.Covers current m where
  modules := rfl
  names s hs := ⟨s, hs, rfl⟩
  objects o ho := ⟨o, ho, rfl⟩

variable {project : Project} {debug release : LinkMap} {text? : Text → Option Text}

/-- No symbol of a covered build survives, because the release keeps whatever is reportable. -/
theorem not_isSurvivor_of_covers (h : release.Covers project.tree.here debug) (s : Symbol) :
    ¬IsSurvivor project debug release s := by
  intro hsurvivor
  have hname := h.names s (List.mem_of_find?_eq_some hsurvivor.first)
  have hreportable := hsurvivor.reportable
  rw [h.modules] at hreportable
  exact hsurvivor.missing ⟨hname, hreportable⟩

theorem findings_eq_nil_of_covers (h : release.Covers project.tree.here debug) :
    (Survey.ofMaps project debug release).findings text? = [] := by
  rw [List.eq_nil_iff_forall_not_mem]
  intro f hf
  exact not_isSurvivor_of_covers h f.symbol (Survey.isSurvivor_of_mem_findings hf)

theorem not_isUnused_of_covers (h : release.Covers project.tree.here debug) (o : ObjectFile) :
    ¬IsUnused project debug release [] o := by
  intro hunused
  rcases hunused.reason with hcontributes | hidle
  · obtain ⟨f, hf, -⟩ := hcontributes.reported
    exact List.not_mem_nil hf
  · obtain ⟨r, hr, hpath⟩ := h.objects o hunused.listed
    exact hidle.absent ⟨r, hr, .inl hpath⟩

theorem files_eq_nil_of_covers (h : release.Covers project.tree.here debug) :
    (Survey.ofMaps project debug release).files project
      ((Survey.ofMaps project debug release).findings text?) = [] := by
  rw [Survey.files_eq_map_unusedObjects, List.map_eq_nil_iff, List.eq_nil_iff_forall_not_mem]
  intro o ho
  have hunused := Survey.mem_unusedObjects.mp ho
  rw [findings_eq_nil_of_covers h] at hunused
  exact not_isUnused_of_covers h o hunused

/-- Nothing is reported when a build is compared with itself, and more generally when a build is
compared with a release that covers it. -/
theorem nothing_reported_of_covers (project : Project) (demangles : Bool) (reader : NameReader) :
    (∀ build : LinkMap,
      (analyze project demangles reader build build).findings = [] ∧
        (analyze project demangles reader build build).files = []) ∧
    ∀ debug release : LinkMap, release.Covers project.tree.here debug →
      (analyze project demangles reader debug release).findings = [] ∧
        (analyze project demangles reader debug release).files = [] := by
  have hcovered (debug release : LinkMap) (h : release.Covers project.tree.here debug) :
      (analyze project demangles reader debug release).findings = [] ∧
        (analyze project demangles reader debug release).files = [] :=
    ⟨findings_eq_nil_of_covers h, files_eq_nil_of_covers h⟩
  exact ⟨fun build => hcovered build build (.refl _ build), hcovered⟩

/-- The build of `objectBuild` once more, with other numbers, another order, another spelling of a
path and a symbol of its own. -/
def renumberedBuild : LinkMap where
  objects := ⟨[⟨7, "/b/Lib.o".toList⟩, ⟨3, "/b/./App.o".toList⟩], by decide⟩
  symbols :=
    [⟨0x1000, 16, 7, "_$s3Lib4pingyyF".toList⟩, ⟨0x1010, 16, 9, "_main".toList⟩,
     ⟨0x1020, 32, 3, "_$s3App4loadyyF".toList⟩]
  lineCount := 9

theorem covers_renumberedBuild : renumberedBuild.Covers bareProject.tree.here objectBuild where
  modules := by decide +kernel
  names := by
    change ∀ s ∈ objectBuild.symbols, ∃ r ∈ renumberedBuild.symbols, r.name = s.name
    decide +kernel
  objects := by decide +kernel

theorem nothing_reported_renumberedBuild :
    renumberedBuild.Covers bareProject.tree.here objectBuild ∧
      (analyze bareProject true (fun _ _ => none) objectBuild renumberedBuild).findings = [] ∧
      (analyze bareProject true (fun _ _ => none) objectBuild renumberedBuild).files = [] :=
  ⟨covers_renumberedBuild,
    (nothing_reported_of_covers bareProject true fun _ _ => none).2 _ _ covers_renumberedBuild⟩

end LinkAudit
