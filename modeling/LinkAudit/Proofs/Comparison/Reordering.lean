import LinkAudit.Proofs.Comparison.Files
import LinkAudit.Proofs.LinkMap.Relisting

/-!
Comparisons of debug builds in another order. Where no two symbols of a debug build share a name,
each stage of a comparison has the same symbols however the build is listed, in one order or in
another. The counts and the modules do not depend on that order, and a report cannot show it: only
equal symbols and equal files tie when they are sorted.
-/

namespace LinkAudit

theorem Symbol.totalSize_eq_of_perm {symbols symbols' : List Symbol} (h : symbols.Perm symbols') :
    totalSize symbols = totalSize symbols' := by
  induction h with
  | nil => rfl
  | cons s _ ih => exact congrArg (s.size + ·) ih
  | swap s s' symbols => exact Nat.add_left_comm s'.size s.size (totalSize symbols)
  | trans _ _ ih ih' => exact ih.trans ih'

theorem Modules.common_eq_of_perm {names names' : List Text} (h : names.Perm names') :
    common names = common names' := by
  have hhomes := h.filterMap moduleOf?
  rw [common, common, Text.distinct_congr fun t => hhomes.mem_iff, h.length_eq]
  simp only [hhomes.count_eq]

theorem indexedCount_eq_of_perm {project : Project} {m m' : LinkMap}
    (h : m.objects.toList.Perm m'.objects.toList) :
    indexedCount project m = indexedCount project m' :=
  h.countP_eq _

/-- Where no two symbols share a name, all of them are the first of their names. -/
theorem attributed_perm {m m' : LinkMap} {raw raw' : List Symbol} (h : m.IsReorderingOf m')
    (hraw : raw.Perm raw') (hnames : (raw'.map (·.name)).Nodup) :
    (attributed m raw).Perm (attributed m' raw') := by
  have hnames' : (raw.map (·.name)).Nodup := (hraw.map (·.name)).nodup_iff.mpr hnames
  rw [attributed, attributed, firstBy_eq_self hnames, firstBy_eq_self hnames', h.objectOf?_eq]
  exact hraw.filter _

theorem Finding.displayName_eq_of_order_eq {f g : Finding} (h : order f g = .eq) :
    f.displayName = g.displayName := by
  rw [order, Ordering.then_eq_eq, Ordering.then_eq_eq] at h
  exact Std.LawfulEqCmp.eq_of_compare h.2.2

namespace Survey

/-- Whether one survey has the symbols of the other at each stage, in whatever order, and agrees
with it in all else. -/
structure IsReorderingOf (v v' : Survey) : Prop where
  project : v.project = v'.project
  debug : v.debug.IsReorderingOf v'.debug
  release : v.release = v'.release
  releaseCount : v.releaseCount = v'.releaseCount
  modules : v.modules = v'.modules
  considered : v.considered.Perm v'.considered
  raw : v.raw.Perm v'.raw
  needsSource : v.needsSource = v'.needsSource
  hinted : v.hinted.Perm v'.hinted

theorem isReorderingOf_ofMaps (project : Project) {debug debug' : LinkMap} (release : LinkMap)
    (h : debug'.IsReorderingOf debug) (hnames : (debug.symbols.map (·.name)).Nodup) :
    (ofMaps project debug' release).IsReorderingOf (ofMaps project debug release) := by
  have hmodules := h.ofProject_eq
  have hconsidered : (ofMaps project debug' release).considered.Perm
      (ofMaps project debug release).considered := by
    simp only [ofMaps, hmodules]
    exact h.symbols.filter _
  have hraw : (ofMaps project debug' release).raw.Perm (ofMaps project debug release).raw :=
    hconsidered.filter _
  have hneeds : (ofMaps project debug' release).needsSource =
      (ofMaps project debug release).needsSource := by
    change decide (sourceThreshold < indexedCount project debug') = _
    rw [indexedCount_eq_of_perm h.objects]
    rfl
  have hhinted : (ofMaps project debug' release).hinted.Perm
      (ofMaps project debug release).hinted := by
    have hrawNames : ((ofMaps project debug release).raw.map (·.name)).Nodup := by
      rw [raw_eq_filter]
      exact hnames.sublist (List.filter_sublist.map _)
    have hattributed := attributed_perm h hraw hrawNames
    change (List.filter (fun s => !(ofMaps project debug' release).needsSource || s.2.hasSource)
      ((attributed debug' _).map fun s =>
        (s, project.hint (debug'.objectOf? s) (project.literalHint? s.name)))).Perm _
    rw [hneeds, h.objectOf?_eq]
    exact (hattributed.map _).filter _
  exact ⟨rfl, h, rfl, rfl, hmodules, hconsidered, hraw, hneeds, hhinted⟩

/-- Without demangled texts a symbol is shown by its name. -/
theorem displayName_of_mem_findings {v : Survey} {f : Finding} (h : f ∈ v.findings fun _ => none) :
    f.displayName = f.symbol.name := by
  obtain ⟨s, -, hfinding⟩ := mem_findings.mp h
  rw [(finding?_eq_some_iff.mp hfinding).2]
  rfl

namespace IsReorderingOf

variable {v v' : Survey}

theorem survivors_perm (h : v.IsReorderingOf v') : v.survivors.Perm v'.survivors := by
  have hkept : v.isKept = v'.isKept := by
    funext s
    rw [isKept, isKept, h.modules]
  rw [survivors, survivors, hkept]
  exact h.hinted.filter _

theorem displayModules_eq (h : v.IsReorderingOf v') : v.displayModules = v'.displayModules :=
  Modules.common_eq_of_perm (h.hinted.map _)

theorem finding?_eq (h : v.IsReorderingOf v') : v.finding? = v'.finding? := by
  funext modules s text
  rw [finding?, finding?, h.debug.objectOf?_eq]

theorem findings_eq (h : v.IsReorderingOf v') (hnames : (v.survivors.map (·.1.name)).Nodup) :
    v.findings (fun _ => none) = v'.findings fun _ => none := by
  apply mergeSort_isLE_eq_of_perm
  · rw [h.displayModules_eq, h.finding?_eq]
    exact h.survivors_perm.filterMap _
  · -- a tie is a tie of the names shown, which are the symbols' own names here
    intro f hf g hg htie
    have hf' : f ∈ v.findings fun _ => none := (List.mergeSort_perm _ _).mem_iff.mpr hf
    have hg' : g ∈ v.findings fun _ => none := (List.mergeSort_perm _ _).mem_iff.mpr hg
    have hname : f.symbol.name = g.symbol.name := by
      rw [← displayName_of_mem_findings hf', ← displayName_of_mem_findings hg']
      exact Finding.displayName_eq_of_order_eq htie
    exact List.inj_on_of_nodup_map (nodup_names_findings hnames) hf' hg' hname

end IsReorderingOf

end Survey

variable {project : Project} {debug debug' release : LinkMap} {findings : List Finding}
  {o : ObjectFile}

theorem Contributes.of_isReorderingOf (h : debug'.IsReorderingOf debug)
    (ho : Contributes debug' release findings o) : Contributes debug release findings o where
  reported := ho.reported
  unkept s hs hindex hhome :=
    ho.unkept s (h.symbols.mem_iff.mpr hs) hindex (h.ofProject_eq ▸ hhome)

theorem IsIdle.of_isReorderingOf (h : debug'.IsReorderingOf debug)
    (ho : IsIdle project debug' release o) : IsIdle project debug release o where
  unconsidered s hs hindex := by
    rw [← h.ofProject_eq]
    exact ho.unconsidered s (h.symbols.mem_iff.mpr hs) hindex
  absent := ho.absent
  sourced hcount := ho.sourced (by rwa [indexedCount_eq_of_perm h.objects])

theorem IsUnused.of_isReorderingOf (h : debug'.IsReorderingOf debug)
    (ho : IsUnused project debug' release findings o) :
    IsUnused project debug release findings o where
  listed := h.objects.mem_iff.mp ho.listed
  owned := ho.owned
  unmentioned := ho.unmentioned
  reason := ho.reason.imp (.of_isReorderingOf h) (.of_isReorderingOf h)

/-- The files depend on the reported symbols, and on the debug build in any order. -/
theorem Survey.files_eq_of_isReorderingOf {text? : Text → Option Text}
    (h : debug'.IsReorderingOf debug)
    (hfindings : (ofMaps project debug' release).findings text? =
      (ofMaps project debug release).findings text?) :
    (ofMaps project debug' release).files project
        ((ofMaps project debug' release).findings text?) =
      (ofMaps project debug release).files project
        ((ofMaps project debug release).findings text?) := by
  rw [files_eq_map_unusedObjects, files_eq_map_unusedObjects]
  -- both lists are in order, so that it is enough to compare what is in them
  refine map_unusedFile_eq_of_mem_iff nodup_index_unusedObjects nodup_index_unusedObjects ?_
    pairwise_precedes_unusedObjects pairwise_precedes_unusedObjects
  intro o
  rw [mem_unusedObjects, mem_unusedObjects, hfindings]
  exact ⟨.of_isReorderingOf h, .of_isReorderingOf h.symm⟩

/-- The order of a debug build's listing decides nothing where no two symbols share a name. -/
theorem analyze_reordered (project : Project) (reader : NameReader) (debug debug' release : LinkMap)
    (h : debug'.IsReorderingOf debug) (hnames : (debug.symbols.map (·.name)).Nodup) :
    analyze project false reader debug' release = analyze project false reader debug release := by
  have hsurvey := Survey.isReorderingOf_ofMaps project release h hnames
  have hfindings := hsurvey.findings_eq Survey.nodup_names_survivors
  have hfiles := Survey.files_eq_of_isReorderingOf h hfindings
  rw [analyze_eq_conclude, analyze_eq_conclude, Survey.answers_false, Survey.answers_false]
  simp only [Survey.conclude]
  rw [hfindings] at hfiles ⊢
  rw [hfiles, hsurvey.debug.symbols.length_eq, hsurvey.releaseCount, hsurvey.raw.length_eq,
    Symbol.totalSize_eq_of_perm hsurvey.raw, hsurvey.hinted.length_eq,
    hsurvey.survivors_perm.length_eq, hsurvey.modules, hsurvey.displayModules_eq]

def swappedBuild : LinkMap where
  objects := ⟨[⟨2, "/b/Lib.o".toList⟩, ⟨1, "/b/App.o".toList⟩], by decide⟩
  symbols := [⟨0x1010, 16, 2, "_$s3Lib4pingyyF".toList⟩, ⟨0x1000, 16, 1, "_$s3App4loadyyF".toList⟩]
  lineCount := 8

theorem isReorderingOf_swappedBuild : swappedBuild.IsReorderingOf objectBuild :=
  ⟨.swap .., .swap ..⟩

theorem nodup_names_objectBuild : (objectBuild.symbols.map (·.name)).Nodup := by
  decide +kernel

theorem analyze_reordered_swappedBuild :
    swappedBuild.IsReorderingOf objectBuild ∧ (objectBuild.symbols.map (·.name)).Nodup ∧
      analyze bareProject false (fun _ _ => none) swappedBuild frameworkBuild =
        analyze bareProject false (fun _ _ => none) objectBuild frameworkBuild :=
  ⟨isReorderingOf_swappedBuild, nodup_names_objectBuild,
    analyze_reordered _ _ _ _ _ isReorderingOf_swappedBuild nodup_names_objectBuild⟩

end LinkAudit
