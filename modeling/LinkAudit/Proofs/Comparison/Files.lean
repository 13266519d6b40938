import LinkAudit.Proofs.Comparison.Findings
import LinkAudit.Proofs.LinkMap

/-!
The reported object files. An object's file is reported for one of two reasons: a reported symbol
came from it and the release keeps none of its symbols, or none of its symbols is of the debug
build's modules and the release has no such object. The two reasons exclude each other, and the
reported files are those of the objects with a reason, one for each, in order.
-/

namespace LinkAudit

namespace UnusedFile

/-- The order of reported files: by the lowered display, then by the object's path. -/
def Precedes (a b : UnusedFile) : Prop :=
  a.display.lower < b.display.lower ∨
    a.display.lower = b.display.lower ∧
      (a.objectPath < b.objectPath ∨ a.objectPath = b.objectPath)

theorem isLE_order_iff {a b : UnusedFile} : (order a b).isLE = true ↔ a.Precedes b := by
  rw [order, Ordering.isLE_then_iff_or, Text.compare_eq_lt_iff,
    Std.LawfulEqCmp.compare_eq_iff_eq, Text.isLE_compare_iff]
  rfl

instance : Std.TransCmp order :=
  inferInstanceAs <| Std.TransCmp <|
    compareLex (compareOn fun f : UnusedFile => f.display.lower) (compareOn objectPath)

end UnusedFile

/-- An object contributes if a reported symbol came from it and the release keeps no symbol of it
that is of the debug build's modules. -/
structure Contributes (debug release : LinkMap) (findings : List Finding) (o : ObjectFile) :
    Prop where
  reported : ∃ f ∈ findings, f.symbol.objectIndex = o.index
  unkept : ∀ s ∈ debug.symbols, s.objectIndex = o.index →
    isInModules (Modules.ofProject debug) s.name = true → ¬release.Keeps s.name

/-- An object is idle if none of its symbols is of the debug build's modules, the release has no
such object, and it has a source where sources are needed. -/
structure IsIdle (project : Project) (debug release : LinkMap) (o : ObjectFile) : Prop where
  unconsidered : ∀ s ∈ debug.symbols, s.objectIndex = o.index →
    isInModules (Modules.ofProject debug) s.name = false
  absent : ¬release.HasObject project.tree.here o
  sourced : 8 < indexedCount project debug → (project.hint (some o) none).hasSource = true

/-- What it takes for the file of a debug object to be reported. -/
structure IsUnused (project : Project) (debug release : LinkMap) (findings : List Finding)
    (o : ObjectFile) : Prop where
  listed : o ∈ debug.objects.toList
  owned : o.isForeign = false
  unmentioned : (ReleaseSide.ofMap release project.tree.here).mentions o.path = false
  reason : Contributes debug release findings o ∨ IsIdle project debug release o

def Project.unusedFile (p : Project) (o : ObjectFile) : UnusedFile :=
  UnusedFile.ofObject o.path (p.hint (some o) none)

variable {project : Project} {debug release : LinkMap} {text? : Text → Option Text}

namespace Survey

def contributors (v : Survey) (findings : List Finding) : List ObjectFile :=
  (firstBy (·.symbol.objectIndex) findings).filterMap fun f =>
    if v.keptObjects.contains f.symbol.objectIndex then none else v.debug.objectOf? f.symbol

def idlers (v : Survey) (now : Project) : List ObjectFile :=
  v.debug.objects.toList.filter fun o =>
    !((Std.TreeSet.ofList (v.considered.map (·.objectIndex))).contains o.index || o.isForeign ||
        v.release.hasObject o now.tree.here) &&
      (!v.needsSource || (now.hint (some o) none).hasSource)

theorem contains_keptObjects_iff {index : Nat} :
    (ofMaps project debug release).keptObjects.contains index = true ↔
      ∃ s ∈ debug.symbols, s.objectIndex = index ∧
        isInModules (Modules.ofProject debug) s.name = true ∧ release.Keeps s.name := by
  rw [keptObjects, Std.TreeSet.contains_ofList, List.contains_iff_mem, List.mem_map]
  constructor
  · rintro ⟨s, hs, hindex⟩
    rw [List.mem_filter, mem_considered] at hs
    exact ⟨s, hs.1.1, hindex, hs.1.2, ReleaseSide.contains_keptNames_iff.mp hs.2⟩
  · rintro ⟨s, hs, hindex, hhome, hkeeps⟩
    refine ⟨s, ?_, hindex⟩
    rw [List.mem_filter, mem_considered]
    exact ⟨⟨hs, hhome⟩, ReleaseSide.contains_keptNames_iff.mpr hkeeps⟩

/-- A reported symbol comes from an object of the project, and the hint for it is the hint for that
object. -/
theorem exists_object_of_mem_findings {f : Finding}
    (h : f ∈ (ofMaps project debug release).findings text?) :
    ∃ o, debug.objectOf? f.symbol = some o ∧ o ∈ debug.objects.toList ∧
      o.index = f.symbol.objectIndex ∧ o.isForeign = false ∧
      f.hint = project.hint (some o) none := by
  have hsurvivor := isSurvivor_of_mem_findings h
  obtain ⟨o, hobject, howned⟩ := hsurvivor.owned
  obtain ⟨hlisted, hindex⟩ := ObjectTable.find?_eq_some_iff.mp hobject
  refine ⟨o, hobject, hlisted, hindex, howned, ?_⟩
  rw [hint_of_mem_findings h, Project.symbolHint,
    Project.hint_literalHint?_of_isReportable hsurvivor.reportable, hobject]

theorem mem_contributors {o : ObjectFile} :
    o ∈ (ofMaps project debug release).contributors
        ((ofMaps project debug release).findings text?) ↔
      o ∈ debug.objects.toList ∧ o.isForeign = false ∧
        Contributes debug release ((ofMaps project debug release).findings text?) o := by
  rw [contributors, List.mem_filterMap]
  constructor
  · rintro ⟨f, hfirst, hsome⟩
    have hf := mem_of_mem_firstBy hfirst
    obtain ⟨p, hobject, hlisted, hindex, howned, -⟩ := exists_object_of_mem_findings hf
    split at hsome
    · simp at hsome
    · rename_i hunkept
      obtain rfl : p = o := Option.some.inj (hobject.symm.trans hsome)
      refine ⟨hlisted, howned, ⟨f, hf, hindex.symm⟩, ?_⟩
      intro s hs hsymbol hhome hkeeps
      exact hunkept
        (contains_keptObjects_iff.mpr ⟨s, hs, hsymbol.trans hindex, hhome, hkeeps⟩)
  · rintro ⟨hlisted, howned, ⟨f, hf, hindex⟩, hunkept⟩
    -- the first finding of the same object leads to it as well
    obtain ⟨g, hg, hsame⟩ := exists_mem_firstBy (·.symbol.objectIndex) hf
    have hnumber : g.symbol.objectIndex = o.index := hsame.trans hindex
    refine ⟨g, hg, ?_⟩
    rw [if_neg]
    · exact ObjectTable.find?_eq_some_iff.mpr ⟨hlisted, hnumber.symm⟩
    · rw [contains_keptObjects_iff]
      rintro ⟨s, hs, hsymbol, hhome, hkeeps⟩
      exact hunkept s hs (hsymbol.trans hnumber) hhome hkeeps

theorem contains_occupied_iff {index : Nat} :
    (Std.TreeSet.ofList
        ((ofMaps project debug release).considered.map (·.objectIndex))).contains index = true ↔
      ∃ s ∈ debug.symbols, s.objectIndex = index ∧
        isInModules (Modules.ofProject debug) s.name = true := by
  rw [Std.TreeSet.contains_ofList, List.contains_iff_mem, List.mem_map]
  constructor
  · rintro ⟨s, hs, hindex⟩
    exact ⟨s, (mem_considered.mp hs).1, hindex, (mem_considered.mp hs).2⟩
  · rintro ⟨s, hs, hindex, hhome⟩
    exact ⟨s, mem_considered.mpr ⟨hs, hhome⟩, hindex⟩

theorem mem_idlers {o : ObjectFile} :
    o ∈ (ofMaps project debug release).idlers project ↔
      o ∈ debug.objects.toList ∧ o.isForeign = false ∧ IsIdle project debug release o := by
  refine List.mem_filter.trans (and_congr_right fun _ => ?_)
  rw [Bool.and_eq_true, Bool.not_eq_true', Bool.or_eq_false_iff, Bool.or_eq_false_iff]
  constructor
  · rintro ⟨⟨⟨hvacant, howned⟩, habsent⟩, hsourced⟩
    refine ⟨howned, ?_, ?_, isSourced_iff.mp hsourced⟩
    · intro s hs hindex
      rw [Bool.eq_false_iff]
      intro hhome
      exact Bool.eq_false_iff.mp hvacant (contains_occupied_iff.mpr ⟨s, hs, hindex, hhome⟩)
    · intro hobject
      exact Bool.eq_false_iff.mp habsent (ReleaseSide.hasObject_iff.mpr hobject)
  · rintro ⟨howned, hidle⟩
    refine ⟨⟨⟨?_, howned⟩, ?_⟩, isSourced_iff.mpr hidle.sourced⟩
    · rw [Bool.eq_false_iff]
      intro hoccupied
      obtain ⟨s, hs, hindex, hhome⟩ := contains_occupied_iff.mp hoccupied
      exact Bool.eq_false_iff.mp (hidle.unconsidered s hs hindex) hhome
    · rw [Bool.eq_false_iff]
      intro hobject
      exact hidle.absent (ReleaseSide.hasObject_iff.mp hobject)

theorem filesOfFindings_map_snd :
    ((ofMaps project debug release).filesOfFindings
        ((ofMaps project debug release).findings text?)).map (·.2) =
      ((ofMaps project debug release).contributors
        ((ofMaps project debug release).findings text?)).map project.unusedFile := by
  rw [filesOfFindings, contributors, List.map_filterMap, List.map_filterMap]
  apply List.filterMap_congr
  intro f hfirst
  have hf := mem_of_mem_firstBy hfirst
  obtain ⟨o, hobject, -, -, -, hhint⟩ := exists_object_of_mem_findings hf
  have howner := owner_of_mem_findings hf
  split
  · rfl
  · rw [howner, hobject, show (ofMaps project debug release).debug.objectOf? f.symbol = some o
      from hobject, hhint]
    rfl

theorem filesOfIdleObjects_eq_map (v : Survey) (now : Project) :
    v.filesOfIdleObjects now = (v.idlers now).map now.unusedFile := by
  rw [filesOfIdleObjects, idlers, ← List.filterMap_eq_filter, List.map_filterMap]
  apply List.filterMap_congr
  intro o _
  rw [Option.guard]
  split
  · rename_i hexcluded
    rw [hexcluded]
    rfl
  · rename_i hincluded
    rw [Bool.not_eq_true] at hincluded
    rw [hincluded]
    dsimp only
    cases v.needsSource with
    | false => rfl
    | true =>
        cases (now.hint (some o) none).hasSource with
        | false => rfl
        | true => rfl

/-- The objects whose files are reported, in the order of the files. -/
def unusedObjects (v : Survey) (findings : List Finding) : List ObjectFile :=
  ((v.contributors findings ++ v.idlers v.project).filter fun o =>
    !v.release.mentions o.path).mergeSort fun a b =>
      (UnusedFile.order (v.project.unusedFile a) (v.project.unusedFile b)).isLE

theorem files_eq_map_unusedObjects :
    (ofMaps project debug release).files project
        ((ofMaps project debug release).findings text?) =
      ((ofMaps project debug release).unusedObjects
        ((ofMaps project debug release).findings text?)).map project.unusedFile := by
  rw [files, filesOfFindings_map_snd, filesOfIdleObjects_eq_map, ← List.map_append,
    List.filter_map, unusedObjects]
  symm
  apply List.map_mergeSort (f := project.unusedFile)
  intro a _ b _
  rfl

theorem mem_unusedObjects {o : ObjectFile} :
    o ∈ (ofMaps project debug release).unusedObjects
        ((ofMaps project debug release).findings text?) ↔
      IsUnused project debug release ((ofMaps project debug release).findings text?) o := by
  rw [unusedObjects, (List.mergeSort_perm _ _).mem_iff, List.mem_filter, List.mem_append,
    mem_contributors, Bool.not_eq_true']
  constructor
  · rintro ⟨⟨hlisted, howned, hcontributes⟩ | hidler, hunmentioned⟩
    · exact ⟨hlisted, howned, hunmentioned, .inl hcontributes⟩
    · obtain ⟨hlisted, howned, hidle⟩ := mem_idlers.mp hidler
      exact ⟨hlisted, howned, hunmentioned, .inr hidle⟩
  · rintro ⟨hlisted, howned, hunmentioned, hcontributes | hidle⟩
    · exact ⟨.inl ⟨hlisted, howned, hcontributes⟩, hunmentioned⟩
    · exact ⟨.inr (mem_idlers.mpr ⟨hlisted, howned, hidle⟩), hunmentioned⟩

/-- No reported symbol comes from an idle object. -/
theorem objectIndex_ne_of_isIdle {f : Finding} {o : ObjectFile}
    (hf : f ∈ (ofMaps project debug release).findings text?)
    (ho : IsIdle project debug release o) : f.symbol.objectIndex ≠ o.index := by
  intro hindex
  have hsurvivor := isSurvivor_of_mem_findings hf
  have hhome := isInModules_iff.mpr hsurvivor.atHome
  rw [ho.unconsidered _ (List.mem_of_find?_eq_some hsurvivor.first) hindex] at hhome
  exact Bool.noConfusion hhome

/-- An object is never reported for both reasons. -/
theorem not_isIdle_of_contributes {o : ObjectFile}
    (h : Contributes debug release ((ofMaps project debug release).findings text?) o) :
    ¬IsIdle project debug release o := by
  intro hidle
  obtain ⟨f, hf, hindex⟩ := h.reported
  exact objectIndex_ne_of_isIdle hf hidle hindex

theorem nodup_index_contributors (v : Survey) (findings : List Finding) :
    ((v.contributors findings).map (·.index)).Nodup := by
  have hnumber {f : Finding} {o : ObjectFile}
      (h : (if v.keptObjects.contains f.symbol.objectIndex then none
        else v.debug.objectOf? f.symbol) = some o) : o.index = f.symbol.objectIndex := by
    split at h
    · simp at h
    · exact (ObjectTable.find?_eq_some_iff.mp h).2
  have hfirst := nodup_map_firstBy (·.symbol.objectIndex) findings
  rw [List.Nodup, List.pairwise_map] at hfirst ⊢
  rw [contributors, List.pairwise_filterMap]
  apply hfirst.imp
  intro f g hne o ho p hp
  rw [hnumber ho, hnumber hp]
  exact hne

theorem nodup_index_unusedObjects :
    (((ofMaps project debug release).unusedObjects
      ((ofMaps project debug release).findings text?)).map (·.index)).Nodup := by
  rw [unusedObjects, ((List.mergeSort_perm _ _).map _).nodup_iff]
  refine List.Nodup.sublist (List.filter_sublist.map _) ?_
  rw [List.map_append, List.nodup_append]
  refine ⟨nodup_index_contributors _ _, debug.objects.distinct.sublist (List.filter_sublist.map _),
    ?_⟩
  -- one number would mean one object, reported for both reasons
  intro i hi j hj hij
  obtain ⟨o, ho, rfl⟩ := List.mem_map.mp hi
  obtain ⟨p, hp, rfl⟩ := List.mem_map.mp hj
  obtain ⟨hlisted, -, hcontributes⟩ := mem_contributors.mp ho
  obtain ⟨hidlisted, -, hidle⟩ := mem_idlers.mp hp
  obtain rfl : o = p := List.inj_on_of_nodup_map debug.objects.distinct hlisted hidlisted hij
  exact not_isIdle_of_contributes hcontributes hidle

theorem pairwise_precedes_files (v : Survey) (now : Project) (findings : List Finding) :
    (v.files now findings).Pairwise UnusedFile.Precedes := by
  apply (pairwise_mergeSort_isLE UnusedFile.order _).imp
  intro a b h
  exact UnusedFile.isLE_order_iff.mp h

theorem pairwise_precedes_unusedObjects :
    (((ofMaps project debug release).unusedObjects
      ((ofMaps project debug release).findings text?)).map project.unusedFile).Pairwise
        UnusedFile.Precedes := by
  rw [← files_eq_map_unusedObjects]
  exact pairwise_precedes_files _ _ _

end Survey

theorem Project.unusedFile_eq_of_path_eq (p : Project) {o o' : ObjectFile} (h : o.path = o'.path) :
    p.unusedFile o = p.unusedFile o' := by
  cases o
  cases o'
  cases h
  rfl

/-- Files in order are determined by their objects: two of them that tie have one path. -/
theorem map_unusedFile_eq_of_mem_iff {objects objects' : List ObjectFile}
    (hdistinct : (objects.map (·.index)).Nodup) (hdistinct' : (objects'.map (·.index)).Nodup)
    (hmem : ∀ o, o ∈ objects ↔ o ∈ objects')
    (hsorted : (objects.map project.unusedFile).Pairwise UnusedFile.Precedes)
    (hsorted' : (objects'.map project.unusedFile).Pairwise UnusedFile.Precedes) :
    objects.map project.unusedFile = objects'.map project.unusedFile := by
  have hperm : objects.Perm objects' :=
    (List.perm_ext_iff_of_nodup hdistinct.of_map hdistinct'.of_map).mpr hmem
  refine eq_of_perm_of_pairwise_isLE (hperm.map project.unusedFile) ?_
    (hsorted.imp UnusedFile.isLE_order_iff.mpr) (hsorted'.imp UnusedFile.isLE_order_iff.mpr)
  intro a ha b hb htie
  obtain ⟨o, -, rfl⟩ := List.mem_map.mp ha
  obtain ⟨o', -, rfl⟩ := List.mem_map.mp hb
  rw [UnusedFile.order, Ordering.then_eq_eq] at htie
  exact project.unusedFile_eq_of_path_eq (Std.LawfulEqCmp.eq_of_compare htie.2)

/-- The file of an object with a symbol of the debug build's modules that the release keeps is not
reported. -/
theorem IsUnused.not_keeps {findings : List Finding} {o : ObjectFile}
    (h : IsUnused project debug release findings o) {s : Symbol} (hs : s ∈ debug.symbols)
    (hindex : s.objectIndex = o.index)
    (hhome : isInModules (Modules.ofProject debug) s.name = true) : ¬release.Keeps s.name := by
  rcases h.reason with hcontributes | hidle
  · exact hcontributes.unkept s hs hindex hhome
  · rw [hidle.unconsidered s hs hindex] at hhome
    exact Bool.noConfusion hhome

/-- The reported files, exactly: one for each object that meets the condition, in order. No object
with a symbol of the debug build's modules that the release keeps is among them. -/
theorem exists_objects_of_files_analyze (project : Project) (demangles : Bool)
    (reader : NameReader) (debug release : LinkMap) :
    let analysis := analyze project demangles reader debug release
    (∃ objects : List ObjectFile,
      (objects.map (·.index)).Nodup ∧
      (∀ o, o ∈ objects ↔ IsUnused project debug release analysis.findings o) ∧
      analysis.files = objects.map project.unusedFile ∧
      ∀ s ∈ debug.symbols, isInModules (Modules.ofProject debug) s.name = true →
        release.Keeps s.name → s.objectIndex ∉ objects.map (·.index)) ∧
      analysis.files.Pairwise UnusedFile.Precedes := by
  intro analysis
  refine ⟨⟨_, Survey.nodup_index_unusedObjects, fun o => Survey.mem_unusedObjects,
    Survey.files_eq_map_unusedObjects, ?_⟩, Survey.pairwise_precedes_files _ _ _⟩
  intro s hs hhome hkeeps hmem
  obtain ⟨o, ho, hindex⟩ := List.mem_map.mp hmem
  exact (Survey.mem_unusedObjects.mp ho).not_keeps hs hindex.symm hhome hkeeps

end LinkAudit
