import LinkAudit.Proofs.Comparison.Files
import LinkAudit.Proofs.Comparison.Mention
import LinkAudit.Proofs.Comparison.Renumbering

/-!
Comparisons of builds that are listed otherwise. Of the release only names and paths are looked up,
so that it can be listed under other numbers and in another order without any change of the
analysis. Other numbers for the debug build's objects stand in the analysis, and nothing else of it
changes.
-/

namespace LinkAudit

/-- Two tabulated releases agree if every look-up in them has the same answer. The order of the
names may make a difference to a search for what goes over the end of a line. -/
structure ReleaseSide.Agrees (r r' : ReleaseSide) : Prop where
  keptNames : r.keptNames.contains = r'.keptNames.contains
  paths : r.paths.contains = r'.paths.contains
  baseNames : r.baseNames.contains = r'.baseNames.contains
  mentions : ∀ path : Text, '\n' ∉ path → r.mentions path = r'.mentions path

namespace ReleaseSide

variable {r r' : ReleaseSide}

theorem Agrees.hasObject_eq (h : r.Agrees r') : r.hasObject = r'.hasObject := by
  funext o current
  rw [hasObject, hasObject, h.paths, h.baseNames]

/-- However a release is listed, the same can be looked up in it. -/
theorem agrees_ofMap {ρ : Nat ↪ Nat} {release release' : LinkMap}
    (h : release'.IsReorderingOf (release.renumber ρ)) (current : Path) :
    (ofMap release' current).Agrees (ofMap release current) := by
  have hmodules : Modules.ofProject release' = Modules.ofProject release :=
    h.ofProject_eq.trans (Modules.ofProject_renumber release)
  have hnames : (release'.symbols.map (·.name)).Perm (release.symbols.map (·.name)) := by
    have hperm := h.symbols.map (·.name)
    rw [LinkMap.symbols_renumber, List.map_map] at hperm
    exact hperm
  have hobjects {key : ObjectFile → Text} (hkey : ∀ o, key (o.renumber ρ) = key o) :
      (release'.objects.toList.map key).Perm (release.objects.toList.map key) := by
    have hperm := h.objects.map key
    have hcomp : key ∘ (·.renumber ρ) = key := funext hkey
    rw [LinkMap.objects_renumber, ObjectTable.toList_renumber, List.map_map, hcomp] at hperm
    exact hperm
  -- the tables are compared by what is found in them: they are built in different orders
  refine ⟨?_, ?_, ?_, fun path hpath => ?_⟩
  · funext text
    simp only [ofMap, Std.TreeSet.contains_ofList, hmodules]
    exact (hnames.filter _).contains_eq
  · funext text
    simp only [ofMap, Std.TreeSet.contains_ofList]
    exact (hobjects fun _ => rfl).contains_eq
  · funext text
    simp only [ofMap, Std.TreeSet.contains_ofList]
    exact (hobjects fun _ => rfl).contains_eq
  · rw [Bool.eq_iff_iff, mentions_ofMap_iff _ _ hpath, mentions_ofMap_iff _ _ hpath]
    simp only [hnames.mem_iff]

end ReleaseSide

namespace Survey

/-- A survey looks names up in the release, and no more. -/
theorem ofMaps_eq_of_agrees {project : Project} {debug release release' : LinkMap}
    (h : (ReleaseSide.ofMap release' project.tree.here).Agrees
      (ReleaseSide.ofMap release project.tree.here))
    (hcount : release'.symbols.length = release.symbols.length) :
    ofMaps project debug release' =
      { ofMaps project debug release with
        release := ReleaseSide.ofMap release' project.tree.here } := by
  simp only [ofMaps, h.keptNames, hcount]

theorem answers_of_release (v : Survey) (side : ReleaseSide) (demangles : Bool)
    (reader : NameReader) :
    ({ v with release := side } : Survey).answers demangles reader = v.answers demangles reader :=
  rfl

variable {project : Project} {debug release : LinkMap} {text? : Text → Option Text}

/-- The files that are searched for among the release's names are those of debug objects. -/
theorem exists_object_of_mem_candidates {f : UnusedFile}
    (h : f ∈ ((ofMaps project debug release).filesOfFindings
          ((ofMaps project debug release).findings text?)).map (·.2) ++
        (ofMaps project debug release).filesOfIdleObjects project) :
    ∃ o ∈ debug.objects.toList, f.objectPath = o.path := by
  rw [filesOfFindings_map_snd, filesOfIdleObjects_eq_map, ← List.map_append, List.mem_map] at h
  obtain ⟨o, ho, rfl⟩ := h
  rcases List.mem_append.mp ho with hcontributor | hidler
  · exact ⟨o, (mem_contributors.mp hcontributor).1, rfl⟩
  · exact ⟨o, (mem_idlers.mp hidler).1, rfl⟩

theorem conclude_eq_of_agrees {side : ReleaseSide} (hdebug : debug.IsUnbroken)
    (h : side.Agrees (ReleaseSide.ofMap release project.tree.here)) :
    ({ ofMaps project debug release with release := side } : Survey).conclude project text? =
      (ofMaps project debug release).conclude project text? := by
  let v := ofMaps project debug release
  let v' : Survey := { v with release := side }
  have hkept : v'.keptObjects = v.keptObjects := by
    rw [keptObjects, keptObjects, h.keptNames]
    rfl
  have hidle : v'.filesOfIdleObjects project = v.filesOfIdleObjects project := by
    rw [filesOfIdleObjects, filesOfIdleObjects, h.hasObject_eq]
    rfl
  have hcontributed : v'.filesOfFindings (v.findings text?) =
      v.filesOfFindings (v.findings text?) := by
    rw [filesOfFindings, filesOfFindings, hkept]
  have hfiles : v'.files project (v.findings text?) = v.files project (v.findings text?) := by
    rw [files, files, hidle, hcontributed]
    congr 1
    refine List.filter_congr fun f hf => ?_
    obtain ⟨o, ho, hpath⟩ := exists_object_of_mem_candidates hf
    rw [hpath]
    exact congrArg not (h.mentions o.path (hdebug o ho))
  change v'.conclude project text? = v.conclude project text?
  rw [conclude, conclude, ← hfiles]
  rfl

end Survey

/-- The listing of a build decides nothing. The paths of a build that was read from a text have no
newlines. A release can be listed under any numbers and in any order without a change of the
analysis of a debug build with such paths; nor does its text of names mention other objects of such
paths. Other numbers for the objects of the debug build are carried over into the analysis. -/
theorem analyze_relisted (ρ : Nat ↪ Nat) (project : Project) (demangles : Bool)
    (reader : NameReader) (debug release : LinkMap) :
    (∀ t, (LinkMap.ofText t).IsUnbroken) ∧
    (∀ release' : LinkMap, release'.IsReorderingOf (release.renumber ρ) →
      (debug.IsUnbroken → analyze project demangles reader debug release' =
          analyze project demangles reader debug release) ∧
        ∀ t, ∀ o ∈ (LinkMap.ofText t).objects.toList,
          (ReleaseSide.ofMap release' project.tree.here).mentions o.path =
            (ReleaseSide.ofMap release project.tree.here).mentions o.path) ∧
      analyze project demangles reader (debug.renumber ρ) release =
        (analyze project demangles reader debug release).renumber ρ := by
  refine ⟨LinkMap.isUnbroken_ofText, ?_, ?_⟩
  · intro release' h
    have hagrees := ReleaseSide.agrees_ofMap h project.tree.here
    have hcount : release'.symbols.length = release.symbols.length := by
      rw [h.symbols.length_eq, LinkMap.symbols_renumber, List.length_map]
    refine ⟨fun hdebug => ?_, fun t o ho => ?_⟩
    · rw [analyze_eq_conclude, analyze_eq_conclude, Survey.ofMaps_eq_of_agrees hagrees hcount,
        Survey.answers_of_release, Survey.conclude_eq_of_agrees hdebug hagrees]
    · exact hagrees.mentions o.path (LinkMap.isUnbroken_ofText t o ho)
  · rw [analyze_eq_conclude, analyze_eq_conclude, Survey.ofMaps_renumber, Survey.answers_renumber,
      Survey.conclude_renumber]

def fiveMore : Nat ↪ Nat := ⟨(· + 5), fun _ _ => Nat.add_right_cancel⟩

/-- The build of `frameworkBuild` from the last object to the first, under other numbers. -/
def reversedBuild : LinkMap where
  objects := ⟨[⟨7, "/b/Lib.o".toList⟩, ⟨6, "/b/App.framework/App".toList⟩], by decide⟩
  symbols := [⟨0x1010, 16, 7, "_$s3Lib4pingyyF".toList⟩, ⟨0x1000, 16, 6, "_$s3App4loadyyF".toList⟩]
  lineCount := 8

theorem isReorderingOf_reversedBuild :
    reversedBuild.IsReorderingOf (frameworkBuild.renumber fiveMore) :=
  ⟨.swap .., .swap ..⟩

theorem mem_objects_ofText :
    ⟨1, "/b/App.o".toList⟩ ∈
      (LinkMap.ofText "# Object files:\n[1] /b/App.o".toList).objects.toList := by
  decide +kernel

theorem analyze_relisted_reversedBuild :
    reversedBuild.IsReorderingOf (frameworkBuild.renumber fiveMore) ∧ objectBuild.IsUnbroken ∧
      analyze bareProject true (fun _ _ => none) objectBuild reversedBuild =
        analyze bareProject true (fun _ _ => none) objectBuild frameworkBuild ∧
      (ReleaseSide.ofMap reversedBuild bareProject.tree.here).mentions "/b/App.o".toList =
        (ReleaseSide.ofMap frameworkBuild bareProject.tree.here).mentions "/b/App.o".toList := by
  obtain ⟨hanalysis, hmentions⟩ := (analyze_relisted fiveMore bareProject true
    (fun _ _ => none) objectBuild frameworkBuild).2.1 _ isReorderingOf_reversedBuild
  have hdebug : objectBuild.IsUnbroken := by
    unfold LinkMap.IsUnbroken
    decide
  exact ⟨isReorderingOf_reversedBuild, hdebug, hanalysis hdebug, hmentions _ _ mem_objects_ofText⟩

end LinkAudit
