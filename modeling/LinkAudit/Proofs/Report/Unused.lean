import LinkAudit.Proofs.Report.Groups

/-!
Unused files in a report. Main statement: the lines behind the header of a report without a limit
are, up to their order, a summary for each group with findings, a line for each finding, and a line
for each unused file under whose name no finding is shown. The groups are made by the last part of a
path alone, so that a file has no line of its own where another file of that name has a finding.
-/

namespace LinkAudit

/-- The line of an unused file: a warning with its own path. -/
def UnusedFile.line (c : ReportContext) (f : UnusedFile) : Text :=
  ReportGroup.fileLine c ⟨f.groupName c, [], [f]⟩ f

theorem ReportGroup.fileLine_eq_line {c : ReportContext} {g : ReportGroup} {f : UnusedFile}
    (h : f.groupName c = g.name) : g.fileLine c f = f.line c := by
  rw [UnusedFile.line, h]
  rfl

/-- The files that a group has lines for: all of them, or none beside findings. -/
def ReportGroup.lineFiles (g : ReportGroup) : List UnusedFile :=
  if g.findings.isEmpty then g.files else []

theorem ReportGroup.lines_eq_append (c : ReportContext) (g : ReportGroup) :
    g.lines c = (if g.findings.isEmpty then [] else [g.summary c]) ++
      (g.findings.map (·.line c) ++ g.lineFiles.map (g.fileLine c)) := by
  rw [lines, lineFiles]
  split
  · rename_i hnone
    rw [List.isEmpty_iff.mp hnone]
    rfl
  · rw [List.map_nil, List.append_nil, List.singleton_append]

theorem flatMap_if_singleton {α β : Type} (skips : α → Bool) (f : α → β) (l : List α) :
    (l.flatMap fun a => if skips a then [] else [f a]) = (l.filter (!skips ·)).map f := by
  induction l with
  | nil => rfl
  | cons a l ih =>
      rw [List.flatMap_cons, ih]
      cases h : skips a with
      | false => rw [List.filter_cons_of_pos (by simp [h])]; rfl
      | true => rw [List.filter_cons_of_neg (by simp [h])]; rfl

namespace Report

variable {c : ReportContext} {a : Analysis} {groups : List ReportGroup}

/-- Whether no finding is shown under the name of an unused file. -/
def IsShownAlone (c : ReportContext) (a : Analysis) (f : UnusedFile) : Prop :=
  ∀ finding ∈ a.findings, finding.groupName c ≠ f.groupName c

instance (f : UnusedFile) : Decidable (IsShownAlone c a f) :=
  inferInstanceAs <| Decidable <| ∀ finding ∈ a.findings, finding.groupName c ≠ f.groupName c

/-- The unused files that have lines of their own. -/
def aloneFiles (c : ReportContext) (a : Analysis) : List UnusedFile :=
  a.files.filter (IsShownAlone c a ·)

namespace IsGrouping

theorem findings_eq_nil_iff (h : IsGrouping c a groups) {g : ReportGroup} (hg : g ∈ groups) :
    g.findings = [] ↔ ∀ f ∈ a.findings, f.groupName c ≠ g.name := by
  rw [← List.length_eq_zero_iff, (h.findings_perm g hg).length_eq, List.length_eq_zero_iff,
    List.filter_eq_nil_iff]
  simp

theorem lineFiles_eq (h : IsGrouping c a groups) {g : ReportGroup} (hg : g ∈ groups) :
    g.lineFiles = (aloneFiles c a).filter (·.groupName c == g.name) := by
  rw [ReportGroup.lineFiles, aloneFiles, List.filter_filter]
  split
  · rename_i hnone
    have hothers := (h.findings_eq_nil_iff hg).mp (List.isEmpty_iff.mp hnone)
    rw [h.files g hg]
    apply List.filter_congr
    intro f _
    by_cases hname : f.groupName c = g.name
    · have halone : IsShownAlone c a f := by
        rw [IsShownAlone, hname]
        exact hothers
      simp [halone]
    · simp [hname]
  · rename_i hsome
    symm
    rw [List.filter_eq_nil_iff]
    intro f _ hf
    obtain ⟨hname, halone⟩ := Bool.and_eq_true_iff.mp hf
    refine hsome (List.isEmpty_iff.mpr ((h.findings_eq_nil_iff hg).mpr ?_))
    rw [← eq_of_beq hname]
    exact of_decide_eq_true halone

theorem lineFiles_flatMap_perm (h : IsGrouping c a groups) :
    (groups.flatMap (·.lineFiles)).Perm (aloneFiles c a) := by
  have hsplit := flatMap_filter_perm (UnusedFile.groupName c) (aloneFiles c a) h.nodup fun f hf =>
    (h.mem_names _).mpr (.inr ⟨f, (List.mem_filter.mp hf).1, rfl⟩)
  rw [List.flatMap_map] at hsplit
  rwa [List.flatMap_congr fun g hg => h.lineFiles_eq hg]

theorem lines_flatMap_perm (h : IsGrouping c a groups) :
    (groups.flatMap (·.lines c)).Perm
      ((groups.filter (!·.findings.isEmpty)).map (·.summary c) ++
        (a.findings.map (·.line c) ++ (aloneFiles c a).map (·.line c))) := by
  have hlines (g : ReportGroup) (hg : g ∈ groups) :
      g.lines c = (if g.findings.isEmpty then [] else [g.summary c]) ++
        (g.findings.map (·.line c) ++ g.lineFiles.map (·.line c)) := by
    rw [ReportGroup.lines_eq_append]
    congr 2
    apply List.map_congr_left
    intro f hf
    rw [h.lineFiles_eq hg] at hf
    exact ReportGroup.fileLine_eq_line (eq_of_beq (List.mem_filter.mp hf).2)
  have hsummaries := flatMap_if_singleton (fun g : ReportGroup => g.findings.isEmpty)
    (·.summary c) groups
  rw [List.flatMap_congr hlines, ← hsummaries]
  refine (List.flatMap_append_perm groups _ _).symm.trans (List.Perm.append_left _ ?_)
  refine (List.flatMap_append_perm groups _ _).symm.trans ?_
  rw [← List.map_flatMap, ← List.map_flatMap]
  exact (h.findings_flatMap_perm.map _).append (h.lineFiles_flatMap_perm.map _)

end IsGrouping

/-- Behind its header a report without a limit has, in some order, a summary for each group with
findings, a line for each finding, and a line for each unused file under whose name no finding is
shown. -/
theorem exists_lines?_perm (hshown : a.isEmpty = false) (hlimit : c.config.groupLimit ≤ 0) :
    (lines? c a = none ↔ c.config.verbose = true ∧
      (Bytes.text? a.rawSize = none ∨ Bytes.text? a.findingsSize = none)) ∧
    ∃ lines, lines? c a = (preface? c a).map
        (· ++ groupedHeader (Report.groups c a).length :: lines) ∧
      lines.Perm (((Report.groups c a).filter (!·.findings.isEmpty)).map (·.summary c) ++
        (a.findings.map (·.line c) ++ (aloneFiles c a).map (·.line c))) := by
  refine ⟨lines?_eq_none_iff, (Report.groups c a).flatMap (·.lines c), ?_,
    (isGrouping_groups c a).lines_flatMap_perm⟩
  rw [lines?_eq_map_preface?, body_eq_groups hshown hlimit]

theorem exists_lines?_perm_namesakes :
    namesakes.isEmpty = false ∧ aloneFiles plainContext namesakes = [] ∧
      ∃ lines, lines? plainContext namesakes =
          some (groupedHeader (Report.groups plainContext namesakes).length :: lines) ∧
        lines.Perm (((Report.groups plainContext namesakes).filter
            (!·.findings.isEmpty)).map (·.summary plainContext) ++
          (namesakes.findings.map (·.line plainContext) ++ [])) := by
  have hnone : aloneFiles plainContext namesakes = [] :=
    List.length_eq_zero_iff.mp (by decide +kernel)
  obtain ⟨-, lines, hlines, hperm⟩ := @exists_lines?_perm plainContext namesakes isEmpty_namesakes
    (by decide)
  rw [hnone] at hperm
  exact ⟨isEmpty_namesakes, hnone, lines, hlines, hperm⟩

/-- The file of the object without symbols is not in the report, although no symbol is reported for
that object. -/
theorem exists_file_not_shown :
    (∃ f ∈ namesakes.files, f.objectPath = "/b/y/A.o".toList ∧
      (Origin.ofFile f).diagnosticPath? plainContext = some "/b/y/A.o".toList ∧
      ∀ finding ∈ namesakes.findings, ∀ owner ∈ finding.owner,
        owner.object.path ≠ f.objectPath) ∧
      lines? plainContext namesakes = some
        ["Debug-only symbols grouped by file (1 total):".toList,
         "/b/x/A.o:1:1: warning: A.o - /b/x/A.o".toList,
         "/b/x/A.o:1:1: warning:    $s3App4loadyyF".toList] := by
  decide +kernel

end Report

end LinkAudit
