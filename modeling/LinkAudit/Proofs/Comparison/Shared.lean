import LinkAudit.Proofs.Comparison.Files

/-!
Reported files whose objects the release has too. Only an idle object is looked for in the release,
so that the file of an object that is in both builds is reported for the sake of its symbols or not
at all.
-/

namespace LinkAudit

def LinkMap.HasPath (m : LinkMap) (current : Path) (normalPath : Text) : Prop :=
  ∃ r ∈ m.objects.toList, r.normalPath current = normalPath

theorem ReleaseSide.contains_paths_iff {release : LinkMap} {current : Path} {normalPath : Text} :
    (ofMap release current).paths.contains normalPath = true ↔
      release.HasPath current normalPath := by
  simp only [ofMap, Std.TreeSet.contains_ofList, List.contains_iff_mem, List.mem_map]
  rfl

def UnusedFile.normalPath (f : UnusedFile) (current : Path) : Text :=
  ((Path.ofText f.objectPath).normal current).toText

variable {project : Project} {debug release : LinkMap} {text? : Text → Option Text}

namespace Survey

/-- An object whose path the release has is not idle, whatever has become of the tree. -/
theorem not_hasPath_of_mem_idlers {now : Project} {o : ObjectFile}
    (h : o ∈ (ofMaps project debug release).idlers now) :
    ¬release.HasPath project.tree.here (o.normalPath now.tree.here) := by
  intro hpath
  have hselected := (List.mem_filter.mp h).2
  rw [Bool.and_eq_true, Bool.not_eq_true', Bool.or_eq_false_iff] at hselected
  have habsent : ((ofMaps project debug release).release.hasObject o now.tree.here) = false :=
    hselected.1.2
  have hfound : (ofMaps project debug release).release.paths.contains
      (o.normalPath now.tree.here) = true := ReleaseSide.contains_paths_iff.mpr hpath
  rw [ReleaseSide.hasObject, hfound] at habsent
  exact Bool.noConfusion habsent

/-- A reported file is that of a debug object, which contributes or is idle. -/
theorem exists_object_of_mem_files {now : Project} {f : UnusedFile}
    (h : f ∈ (ofMaps project debug release).files now
      ((ofMaps project debug release).findings text?)) :
    ∃ o ∈ debug.objects.toList, o.path = f.objectPath ∧
      (Contributes debug release ((ofMaps project debug release).findings text?) o ∨
        o ∈ (ofMaps project debug release).idlers now) := by
  rw [files, (List.mergeSort_perm _ _).mem_iff, List.mem_filter, List.mem_append,
    filesOfFindings_map_snd, filesOfIdleObjects_eq_map] at h
  rcases h.1 with hcontributor | hidler
  · obtain ⟨o, ho, rfl⟩ := List.mem_map.mp hcontributor
    obtain ⟨hlisted, -, hcontributes⟩ := mem_contributors.mp ho
    exact ⟨o, hlisted, rfl, .inl hcontributes⟩
  · obtain ⟨o, ho, rfl⟩ := List.mem_map.mp hidler
    exact ⟨o, List.mem_of_mem_filter ho, rfl, .inr ho⟩

end Survey

/-- A file whose normal path the release has is reported only where a reported symbol came from its
object and the release keeps none of the object's symbols. It makes no difference what the demangler
answers and whether it changes the tree. -/
theorem contributes_of_hasPath (project : Project) (demangles : Bool) (reader : NameReader)
    (debug release : LinkMap) :
    let analysis := analyze project demangles reader debug release
    (∀ f ∈ analysis.files, release.HasPath project.tree.here (f.normalPath project.tree.here) →
      ∃ o ∈ debug.objects.toList, o.path = f.objectPath ∧
        Contributes debug release analysis.findings o) ∧
    ∀ (now : Project) (text? : Text → Option Text),
      let changed := (Survey.ofMaps project debug release).conclude now text?
      ∀ f ∈ changed.files, release.HasPath project.tree.here (f.normalPath now.tree.here) →
        ∃ o ∈ debug.objects.toList, o.path = f.objectPath ∧
          Contributes debug release changed.findings o := by
  intro analysis
  have hconclude (now : Project) (text? : Text → Option Text) :
      ∀ f ∈ ((Survey.ofMaps project debug release).conclude now text?).files,
        release.HasPath project.tree.here (f.normalPath now.tree.here) →
          ∃ o ∈ debug.objects.toList, o.path = f.objectPath ∧
            Contributes debug release
              ((Survey.ofMaps project debug release).conclude now text?).findings o := by
    intro f hf hshared
    obtain ⟨o, hlisted, hpath, hcontributes | hidler⟩ := Survey.exists_object_of_mem_files hf
    · exact ⟨o, hlisted, hpath, hcontributes⟩
    · rw [UnusedFile.normalPath, ← hpath] at hshared
      exact absurd hshared (Survey.not_hasPath_of_mem_idlers hidler)
  exact ⟨hconclude project _, hconclude⟩

def loadingBuild : LinkMap where
  objects := ⟨[⟨1, "/b/Views.o".toList⟩], by decide⟩
  symbols := [⟨0x1000, 16, 1, "_$s3App4loadyyF".toList⟩]
  lineCount := 6

def pingingBuild : LinkMap where
  objects := loadingBuild.objects
  symbols := [⟨0x1000, 16, 1, "_$s3App4pingyyF".toList⟩]
  lineCount := 6

theorem exists_file_pingingBuild :
    ∃ f ∈ (analyze bareProject false (fun _ _ => none) loadingBuild pingingBuild).files,
      pingingBuild.HasPath bareProject.tree.here (f.normalPath bareProject.tree.here) := by
  have hpaths : (analyze bareProject false (fun _ _ => none) loadingBuild
      pingingBuild).files.map (·.objectPath) = ["/b/Views.o".toList] := by
    decide +kernel
  have hmem : "/b/Views.o".toList ∈ (analyze bareProject false (fun _ _ => none) loadingBuild
      pingingBuild).files.map (·.objectPath) := by
    rw [hpaths]
    exact List.mem_cons_self
  obtain ⟨f, hf, hpath⟩ := List.mem_map.mp hmem
  refine ⟨f, hf, ⟨1, "/b/Views.o".toList⟩, List.mem_cons_self, ?_⟩
  rw [UnusedFile.normalPath, hpath]
  rfl

/-- It is not so that a file is reported only if the release has no object of its path. -/
theorem not_forall_files_not_hasPath :
    ¬∀ f ∈ (analyze bareProject false (fun _ _ => none) loadingBuild pingingBuild).files,
      ¬pingingBuild.HasPath bareProject.tree.here (f.normalPath bareProject.tree.here) := by
  intro hnone
  obtain ⟨f, hf, hshared⟩ := exists_file_pingingBuild
  exact hnone f hf hshared

theorem contributes_pingingBuild :
    ∃ f ∈ (analyze bareProject false (fun _ _ => none) loadingBuild pingingBuild).files,
      pingingBuild.HasPath bareProject.tree.here (f.normalPath bareProject.tree.here) ∧
        ∃ o ∈ loadingBuild.objects.toList, o.path = f.objectPath ∧
          Contributes loadingBuild pingingBuild
            (analyze bareProject false (fun _ _ => none) loadingBuild pingingBuild).findings o := by
  obtain ⟨f, hf, hshared⟩ := exists_file_pingingBuild
  exact ⟨f, hf, hshared, (contributes_of_hasPath _ _ _ _ _).1 f hf hshared⟩

end LinkAudit
