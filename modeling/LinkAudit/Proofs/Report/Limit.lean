import LinkAudit.Proofs.Report.Groups

/-!
Reports with a limit of groups. A limit changes nothing in the groups and their lines. Main
statement: a positive limit below the number of groups cuts the report behind the lines of as many
groups and puts a notice below the header, which still counts all of them; any other limit leaves
the report as it is without a limit.
-/

namespace LinkAudit

def ReportContext.withLimit (c : ReportContext) (limit : Int) : ReportContext :=
  { c with config := { c.config with groupLimit := limit } }

namespace Report

variable {c : ReportContext} {a : Analysis} {groups : List ReportGroup} {limit : Int}

theorem groupLimit_withLimit (c : ReportContext) (limit : Int) :
    (c.withLimit limit).config.groupLimit = limit := rfl

theorem groups_withLimit (c : ReportContext) (a : Analysis) (limit : Int) :
    Report.groups (c.withLimit limit) a = Report.groups c a := rfl

theorem preface?_withLimit (c : ReportContext) (a : Analysis) (limit : Int) :
    preface? (c.withLimit limit) a = preface? c a := rfl

theorem lines_withLimit (c : ReportContext) (g : ReportGroup) (limit : Int) :
    g.lines (c.withLimit limit) = g.lines c := rfl

/-- There are groups unless there is nothing to show. -/
theorem IsGrouping.eq_nil_iff (h : IsGrouping c a groups) : groups = [] ↔ a.isEmpty = true := by
  rw [Analysis.isEmpty, Bool.and_eq_true, List.isEmpty_iff, List.isEmpty_iff]
  constructor
  · rintro rfl
    constructor
    · apply List.eq_nil_iff_forall_not_mem.mpr
      intro f hf
      exact List.not_mem_nil ((h.mem_names _).mpr (.inl ⟨f, hf, rfl⟩))
    · apply List.eq_nil_iff_forall_not_mem.mpr
      intro f hf
      exact List.not_mem_nil ((h.mem_names _).mpr (.inr ⟨f, hf, rfl⟩))
  · rintro ⟨hfindings, hfiles⟩
    apply List.eq_nil_iff_forall_not_mem.mpr
    intro g hg
    rcases (h.mem_names g.name).mp (List.mem_map_of_mem hg) with ⟨f, hf, -⟩ | ⟨f, hf, -⟩
    · rw [hfindings] at hf
      cases hf
    · rw [hfiles] at hf
      cases hf

/-- A limit can lie below the number of groups only where there is something to show. -/
theorem isEmpty_eq_false_of_limit_lt (hpos : 0 < limit)
    (hless : limit < (Report.groups c a).length) : a.isEmpty = false := by
  rw [← Bool.not_eq_true, ← (isGrouping_groups c a).eq_nil_iff, ← List.length_eq_zero_iff]
  omega

theorem cut?_eq_some {count : Nat} (hpos : 0 < limit) (hless : limit < count) :
    cut? limit count = some limit.toNat := by
  rw [cut?, if_pos (by simp [hpos, hless])]

theorem body_of_cut (hpos : 0 < limit) (hless : limit < (Report.groups c a).length) :
    body (c.withLimit limit) a =
      groupedHeader (Report.groups c a).length :: cutNotice limit.toNat ::
        ((Report.groups c a).take limit.toNat).flatMap (·.lines c) := by
  have hshown := isEmpty_eq_false_of_limit_lt hpos hless
  rw [body, if_neg (by simp [hshown]), groups_withLimit, groupedLines, groupLimit_withLimit,
    cut?_eq_some hpos hless]
  simp only [lines_withLimit]

theorem body_of_uncut (h : limit ≤ 0 ∨ ((Report.groups c a).length : Int) ≤ limit) :
    body (c.withLimit limit) a =
      if a.isEmpty then [emptyNotice]
      else groupedHeader (Report.groups c a).length ::
        (Report.groups c a).flatMap (·.lines c) := by
  rw [body, groups_withLimit, groupedLines, groupLimit_withLimit, cut?_eq_none h]
  simp only [lines_withLimit]

/-- With a positive limit below the number of groups a report is the one without a limit, cut behind
the lines of as many groups, with a notice below the header. With any other limit it is the one
without a limit. -/
theorem lines?_withLimit (c : ReportContext) (a : Analysis) (limit : Int) :
    let groups := Report.groups c a
    IsGrouping c a groups ∧
      (limit ≤ 0 ∨ groups.length ≤ limit →
        lines? (c.withLimit limit) a = lines? (c.withLimit 0) a) ∧
      (0 < limit → limit < groups.length →
        lines? (c.withLimit 0) a = (preface? c a).map (· ++ groupedHeader groups.length ::
          ((groups.take limit.toNat).flatMap (·.lines c) ++
            (groups.drop limit.toNat).flatMap (·.lines c))) ∧
        lines? (c.withLimit limit) a = (preface? c a).map (· ++ groupedHeader groups.length ::
          cutNotice limit.toNat :: (groups.take limit.toNat).flatMap (·.lines c))) := by
  intro groups
  refine ⟨isGrouping_groups c a, fun huncut => ?_, fun hpos hless => ⟨?_, ?_⟩⟩
  · rw [lines?_eq_map_preface?, lines?_eq_map_preface?, body_of_uncut huncut,
      body_of_uncut (.inl le_rfl), preface?_withLimit, preface?_withLimit]
  · have hshown := isEmpty_eq_false_of_limit_lt hpos hless
    rw [lines?_eq_map_preface?, preface?_withLimit, body_of_uncut (.inl le_rfl),
      if_neg (by simp [hshown]), ← List.flatMap_append, List.take_append_drop]
  · rw [lines?_eq_map_preface?, preface?_withLimit, body_of_cut hpos hless]

/-- Three files of two names, none of which the release build links. -/
def idleFiles : Analysis where
  debugCount := 0
  releaseCount := 0
  rawCount := 0
  rawSize := 0
  filteredCount := 0
  findings := []
  files :=
    [⟨"/b/x/A.o".toList, none, "A.swift".toList, false⟩,
      ⟨"/b/y/A.o".toList, none, "A.swift".toList, false⟩,
      ⟨"/b/B.o".toList, none, "B.swift".toList, false⟩]
  projectModules := []
  displayModules := []

theorem groups_idleFiles : Report.groups plainContext idleFiles =
    [⟨"A.o".toList, [], idleFiles.files.take 2⟩, ⟨"B.o".toList, [], idleFiles.files.drop 2⟩] := by
  have hnames : (Text.distinct ["A.o".toList, "A.o".toList, "B.o".toList]).mergeSort
      (fun a b => Text.le a.lower b.lower) = ["A.o".toList, "B.o".toList] := by
    have hdistinct : Text.distinct ["A.o".toList, "A.o".toList, "B.o".toList] =
        ["A.o".toList, "B.o".toList] := by decide +kernel
    rw [hdistinct]
    exact List.mergeSort_of_pairwise (by decide +kernel)
  change ((Text.distinct ["A.o".toList, "A.o".toList, "B.o".toList]).mergeSort
    fun a b => Text.le a.lower b.lower).map _ = _
  have hnone : idleFiles.findings = [] := rfl
  simp only [hnames, hnone, List.map_cons, List.map_nil, List.filter_nil, List.mergeSort_nil]
  rfl

theorem lines?_withLimit_idleFiles :
    (0 < 1 ∧ 1 < (Report.groups plainContext idleFiles).length) ∧
      lines? (plainContext.withLimit 1) idleFiles = some
        ["Debug-only symbols grouped by file (2 total):".toList, "(showing first 1 files)".toList,
          "/b/x/A.o:1:1: warning: A.o - unused in release (/b/x/A.o)".toList,
          "/b/y/A.o:1:1: warning: A.o - unused in release (/b/y/A.o)".toList] := by
  obtain ⟨-, -, hcut⟩ := lines?_withLimit plainContext idleFiles 1
  rw [groups_idleFiles] at hcut ⊢
  refine ⟨by decide, (hcut (by decide) (by decide)).2.trans ?_⟩
  decide +kernel

end Report

end LinkAudit
