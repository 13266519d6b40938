import LinkAudit.Proofs.Comparison.Files

/-!
What demangling does to an analysis. It leaves out the symbols whose demangled texts are noise and
shows the others by theirs, as far as they have any, which changes neither what else is said of them
nor any count. Of the files it leaves out those of objects that lose all their reported symbols: an
object with a reported symbol is not idle, so that its file does not come back for the other reason.
-/

namespace LinkAudit

namespace Finding

def undemangled (f : Finding) : Finding := { f with demangled := none }

def isQuiet (text? : Text → Option Text) (f : Finding) : Bool :=
  !(text? f.symbol.name).any Noise.inDemangled

end Finding

/-- Whether an object has findings and the texts make noise of all of them. -/
def ObjectFile.isSilenced (text? : Text → Option Text) (findings : List Finding) (o : ObjectFile) :
    Bool :=
  let own := findings.filter (·.symbol.objectIndex == o.index)
  !own.isEmpty && !own.any (·.isQuiet text?)

variable {project : Project} {debug release : LinkMap} {text? : Text → Option Text}

namespace Survey

/-- Only the texts for survivors matter. -/
theorem findings_congr {v : Survey} {text?' : Text → Option Text}
    (h : ∀ s ∈ v.survivors, text? s.1.name = text?' s.1.name) :
    v.findings text? = v.findings text?' := by
  rw [findings, findings]
  congr 1
  apply List.filterMap_congr
  intro s hs
  rw [h s hs]

theorem findings_answers_true (v : Survey) (reader : NameReader) :
    v.findings (v.answers true reader) = v.findings (reader v.askedNames) := by
  apply findings_congr
  intro s hs
  apply Option.ext
  intro t
  rw [answers_eq_some_iff hs]
  simp

theorem map_undemangled_finding? (v : Survey) (modules : List Text) (s : HintedSymbol) :
    (v.finding? modules s (text? s.1.name)).map Finding.undemangled =
      (v.finding? modules s none).filter (·.isQuiet text?) := by
  have hall : v.finding? modules s none = some
      { symbol := s.1
        owner := (v.debug.objectOf? s.1).map fun object =>
          ⟨object, if s.2.hasSource then s.2.path else none⟩
        hint := s.2
        demangled := none } := rfl
  rw [hall, Option.filter_some, Finding.isQuiet, finding?]
  cases (text? s.1.name).any Noise.inDemangled with
  | true => rfl
  | false => rfl

/-- The findings are, up to their texts and their order, the quiet ones among all findings. -/
theorem map_undemangled_findings_perm (v : Survey) (text? : Text → Option Text) :
    ((v.findings text?).map Finding.undemangled).Perm
      ((v.findings fun _ => none).filter (·.isQuiet text?)) := by
  rw [findings, findings]
  refine ((List.mergeSort_perm _ _).map _).trans ?_
  refine List.Perm.trans ?_ ((List.mergeSort_perm _ _).filter _).symm
  rw [List.map_filterMap, List.filter_filterMap]
  simp only [map_undemangled_finding?]
  rfl

theorem demangled_of_mem_findings {v : Survey} {f : Finding} (h : f ∈ v.findings text?) :
    f.demangled = (text? f.symbol.name).map (Demangled.clean · v.displayModules) := by
  obtain ⟨s, -, hfinding⟩ := mem_findings.mp h
  obtain ⟨-, rfl⟩ := finding?_eq_some_iff.mp hfinding
  rfl

theorem exists_mem_findings_iff {v : Survey} {index : Nat} :
    (∃ f ∈ v.findings text?, f.symbol.objectIndex = index) ↔
      ∃ f ∈ v.findings fun _ => none, f.symbol.objectIndex = index ∧ f.isQuiet text? = true := by
  have hperm := v.map_undemangled_findings_perm text?
  constructor
  · rintro ⟨f, hf, hindex⟩
    have hquiet := hperm.mem_iff.mp (List.mem_map_of_mem hf)
    exact ⟨f.undemangled, (List.mem_filter.mp hquiet).1, hindex, (List.mem_filter.mp hquiet).2⟩
  · rintro ⟨f, hf, hindex, hquiet⟩
    obtain ⟨g, hg, rfl⟩ := List.mem_map.mp (hperm.mem_iff.mpr (List.mem_filter.mpr ⟨hf, hquiet⟩))
    exact ⟨g, hg, hindex⟩

end Survey

theorem ObjectFile.isSilenced_eq_false_iff {findings : List Finding} {o : ObjectFile} :
    o.isSilenced text? findings = false ↔
      (∀ f ∈ findings, f.symbol.objectIndex ≠ o.index) ∨
        ∃ f ∈ findings, f.symbol.objectIndex = o.index ∧ f.isQuiet text? = true := by
  rw [isSilenced, Bool.and_eq_false_iff, Bool.not_eq_false', Bool.not_eq_false',
    List.isEmpty_iff, List.filter_eq_nil_iff, List.any_filter, List.any_eq_true]
  simp

/-- An object stays among the unused ones unless the texts silence it. -/
theorem Survey.isUnused_findings_iff {o : ObjectFile} :
    IsUnused project debug release ((ofMaps project debug release).findings text?) o ↔
      IsUnused project debug release ((ofMaps project debug release).findings fun _ => none) o ∧
        o.isSilenced text? ((ofMaps project debug release).findings fun _ => none) = false := by
  rw [ObjectFile.isSilenced_eq_false_iff]
  constructor
  · rintro ⟨hlisted, howned, hunmentioned, hcontributes | hidle⟩
    · obtain ⟨f, hf, hindex, hquiet⟩ := exists_mem_findings_iff.mp hcontributes.reported
      exact ⟨⟨hlisted, howned, hunmentioned, .inl ⟨⟨f, hf, hindex⟩, hcontributes.unkept⟩⟩,
        .inr ⟨f, hf, hindex, hquiet⟩⟩
    · exact ⟨⟨hlisted, howned, hunmentioned, .inr hidle⟩,
        .inl fun f hf => objectIndex_ne_of_isIdle hf hidle⟩
  · rintro ⟨⟨hlisted, howned, hunmentioned, hcontributes | hidle⟩, hquiet⟩
    · -- without texts the object has a finding, so that one of its findings is quiet
      have hreported := exists_mem_findings_iff.mpr <| hquiet.resolve_left fun hnone => by
        obtain ⟨f, hf, hindex⟩ := hcontributes.reported
        exact hnone f hf hindex
      exact ⟨hlisted, howned, hunmentioned, .inl ⟨hreported, hcontributes.unkept⟩⟩
    · exact ⟨hlisted, howned, hunmentioned, .inr hidle⟩

/-- The files, given those of the objects that would be unused without texts. -/
theorem Survey.files_findings :
    (ofMaps project debug release).files project
        ((ofMaps project debug release).findings text?) =
      (((ofMaps project debug release).unusedObjects
          ((ofMaps project debug release).findings fun _ => none)).filter fun o =>
        !o.isSilenced text? ((ofMaps project debug release).findings fun _ => none)).map
          project.unusedFile := by
  rw [files_eq_map_unusedObjects]
  refine map_unusedFile_eq_of_mem_iff nodup_index_unusedObjects
    (nodup_index_unusedObjects.sublist (List.filter_sublist.map _)) ?_
    pairwise_precedes_unusedObjects
    (pairwise_precedes_unusedObjects.sublist (List.filter_sublist.map _))
  intro o
  rw [List.mem_filter, mem_unusedObjects, mem_unusedObjects, isUnused_findings_iff,
    Bool.not_eq_true']

/-- Demangling leaves symbols out and renames symbols, and it does nothing else. With demangling the
analysis has the counts and modules that it has without. Its symbols are those whose texts are no
noise, with the same owners and hints, shown by their cleaned texts. Its files are those of the
objects that do not lose all their symbols in this way, in the same order. Where there are no texts
for the names asked about, the two analyses are equal. -/
theorem analyze_demangled (project : Project) (reader : NameReader) (debug release : LinkMap) :
    let on := analyze project true reader debug release
    let off := analyze project false reader debug release
    let names := (Survey.ofMaps project debug release).askedNames
    { on with findings := off.findings, files := off.files } = off ∧
      (on.findings.map Finding.undemangled).Perm (off.findings.filter (·.isQuiet (reader names))) ∧
      (∀ f ∈ on.findings,
        f.demangled = (reader names f.symbol.name).map (Demangled.clean · off.displayModules)) ∧
      (∃ objects : List ObjectFile,
        (objects.map (·.index)).Nodup ∧
        (∀ o, o ∈ objects ↔ IsUnused project debug release off.findings o) ∧
        off.files = objects.map project.unusedFile ∧
        on.files = (objects.filter fun o => !o.isSilenced (reader names) off.findings).map
          project.unusedFile) ∧
      ((∀ name ∈ names, reader names name = none) → on = off) := by
  intro on off names
  have hon : on.findings = (Survey.ofMaps project debug release).findings (reader names) :=
    Survey.findings_answers_true _ reader
  have hfiles : on.files = (Survey.ofMaps project debug release).files project on.findings := rfl
  refine ⟨rfl, ?_, ?_, ⟨_, Survey.nodup_index_unusedObjects, fun o => Survey.mem_unusedObjects,
    Survey.files_eq_map_unusedObjects, ?_⟩, ?_⟩
  · rw [hon]
    exact Survey.map_undemangled_findings_perm _ _
  · rw [hon]
    exact fun f => Survey.demangled_of_mem_findings
  · rw [hfiles, hon]
    exact Survey.files_findings
  · intro hnone
    have htexts : (Survey.ofMaps project debug release).findings (reader names) =
        (Survey.ofMaps project debug release).findings fun _ => none :=
      Survey.findings_congr fun s hs => hnone _ (List.mem_map_of_mem hs)
    have hfindings : on.findings = off.findings := hon.trans htexts
    have hsame : on.files = off.files := by
      rw [hfiles, hfindings]
      rfl
    change { off with findings := on.findings, files := on.files } = off
    rw [hfindings, hsame]

end LinkAudit
