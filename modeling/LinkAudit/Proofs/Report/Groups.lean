import LinkAudit.Proofs.Order
import LinkAudit.Proofs.Report
import Mathlib.Data.List.Perm.Basic

/-!
The groups of a report. There is one for each name under which something is shown, in the order of
the lowered names, and the findings in it are exactly those of its name. Main statement: behind its
overview and its header a report without a limit has the lines of the groups one after the other,
and each finding has its line in the group of its name and in no other.
-/

namespace LinkAudit

def Finding.groupName (c : ReportContext) (f : Finding) : Text := (Origin.ofFinding f).groupName c

def UnusedFile.groupName (c : ReportContext) (f : UnusedFile) : Text :=
  (Origin.ofFile f).groupName c

/-- Whether a finding can be shown above another one of its group: it is larger, or as large and not
behind it by the name shown. -/
def Finding.ShownAbove (a b : Finding) : Prop :=
  b.symbol.size < a.symbol.size ∨
    b.symbol.size = a.symbol.size ∧ (a.displayName < b.displayName ∨ a.displayName = b.displayName)

theorem ReportGroup.isLE_orderInGroup_iff {a b : Finding} :
    (orderInGroup a b).isLE = true ↔ a.ShownAbove b := by
  rw [orderInGroup, Ordering.isLE_then_iff_or, Nat.compare_eq_lt,
    Std.LawfulEqCmp.compare_eq_iff_eq, Text.isLE_compare_iff]
  rfl

instance : Std.TransCmp ReportGroup.orderInGroup :=
  inferInstanceAs <| Std.TransCmp <|
    compareLex (fun a b => compareOn (fun f : Finding => f.symbol.size) b a)
      (compareOn Finding.displayName)

/-- What is sorted by different keys, one after the other, is all that has one of them. -/
theorem flatMap_filter_perm {α κ : Type} [BEq κ] [LawfulBEq κ] (key : α → κ) (l : List α)
    {keys : List κ} (hkeys : keys.Nodup) (hcover : ∀ a ∈ l, key a ∈ keys) :
    (keys.flatMap fun k => l.filter (key · == k)).Perm l := by
  induction keys generalizing l with
  | nil =>
      rw [List.eq_nil_iff_forall_not_mem.mpr fun a ha => List.not_mem_nil (hcover a ha)]
      rfl
  | cons k keys ih =>
      obtain ⟨hk, hkeys⟩ := List.nodup_cons.mp hkeys
      have hothers {k' : κ} (hk' : k' ∈ keys) :
          (l.filter fun a => !(key a == k)).filter (key · == k') = l.filter (key · == k') := by
        rw [List.filter_filter]
        apply List.filter_congr
        intro a _
        by_cases heq : key a = k'
        · have hne : k' ≠ k := fun hsame => hk (hsame ▸ hk')
          simp [heq, hne]
        · simp [heq]
      have hrest := ih (l.filter fun a => !(key a == k)) hkeys fun a ha => by
        obtain ⟨ha, hne⟩ := List.mem_filter.mp ha
        exact (List.mem_cons.mp (hcover a ha)).resolve_left (by simpa using hne)
      rw [List.flatMap_cons]
      rw [List.flatMap_congr fun k' hk' => hothers hk'] at hrest
      exact (hrest.append_left _).trans (List.filter_append_perm (key · == k) l)

namespace Report

variable {c : ReportContext} {a : Analysis} {groups : List ReportGroup}

/-- Whether the groups are those of an analysis: one for each name, with all that is shown under it.
-/
structure IsGrouping (c : ReportContext) (a : Analysis) (groups : List ReportGroup) : Prop where
  nodup : (groups.map (·.name)).Nodup
  mem_names : ∀ name, name ∈ groups.map (·.name) ↔
    (∃ f ∈ a.findings, f.groupName c = name) ∨ ∃ f ∈ a.files, f.groupName c = name
  names : groups.Pairwise fun g h =>
    g.name.lower < h.name.lower ∨ g.name.lower = h.name.lower
  findings_perm : ∀ g ∈ groups, g.findings.Perm (a.findings.filter (·.groupName c == g.name))
  findings_pairwise : ∀ g ∈ groups, g.findings.Pairwise Finding.ShownAbove
  files : ∀ g ∈ groups, g.files = a.files.filter (·.groupName c == g.name)

theorem map_filter_keyed {α : Type} (key : α → Text) (l : List α) (name : Text) :
    ((l.map fun x => (key x, x)).filter (·.1 == name)).map (·.2) = l.filter (key · == name) := by
  rw [List.filter_map, List.map_map]
  exact List.map_id _

theorem isGrouping_groups (c : ReportContext) (a : Analysis) :
    IsGrouping c a (Report.groups c a) := by
  have hnames : (Report.groups c a).map (·.name) =
      (Text.distinct (a.findings.map (·.groupName c) ++ a.files.map (·.groupName c))).mergeSort
        fun n m => Text.le n.lower m.lower := by
    simp only [Report.groups, List.map_map]
    exact List.map_id _
  have hgroup {g : ReportGroup} (hg : g ∈ Report.groups c a) :
      g.findings = (a.findings.filter (·.groupName c == g.name)).mergeSort
        (fun f f' => (ReportGroup.orderInGroup f f').isLE) ∧
      g.files = a.files.filter (·.groupName c == g.name) := by
    obtain ⟨name, -, rfl⟩ := List.mem_map.mp hg
    exact ⟨by rw [map_filter_keyed]; rfl, map_filter_keyed _ _ _⟩
  constructor
  case nodup =>
    rw [hnames]
    exact (List.mergeSort_perm _ _).nodup_iff.mpr (Text.nodup_distinct _)
  case mem_names =>
    intro name
    rw [hnames, List.mem_mergeSort, Text.mem_distinct, List.mem_append, List.mem_map, List.mem_map]
  case names =>
    have hsorted := pairwise_mergeSort_isLE (compareOn Text.lower)
      (Text.distinct (a.findings.map (·.groupName c) ++ a.files.map (·.groupName c)))
    have hlowered : ((Report.groups c a).map (·.name)).Pairwise fun n m =>
        n.lower < m.lower ∨ n.lower = m.lower := by
      rw [hnames]
      exact hsorted.imp Text.isLE_compare_iff.mp
    exact List.pairwise_map.mp hlowered
  case findings_perm =>
    intro g hg
    rw [(hgroup hg).1]
    exact List.mergeSort_perm _ _
  case findings_pairwise =>
    intro g hg
    rw [(hgroup hg).1]
    exact (pairwise_mergeSort_isLE ReportGroup.orderInGroup _).imp
      ReportGroup.isLE_orderInGroup_iff.mp
  case files => exact fun g hg => (hgroup hg).2

namespace IsGrouping

theorem findings_flatMap_perm (h : IsGrouping c a groups) :
    (groups.flatMap (·.findings)).Perm a.findings := by
  have hsplit := flatMap_filter_perm (Finding.groupName c) a.findings h.nodup fun f hf =>
    (h.mem_names _).mpr (.inl ⟨f, hf, rfl⟩)
  rw [List.flatMap_map] at hsplit
  exact (List.Perm.flatMap_left groups h.findings_perm).trans hsplit

end IsGrouping

/-- What a verbose report has in front: its overview and an empty line. -/
def preface? (c : ReportContext) (a : Analysis) : Option (List Text) :=
  if c.config.verbose then (overview? c a).map (· ++ [[]]) else some []

theorem lines?_eq_map_preface? : lines? c a = (preface? c a).map (· ++ body c a) := by
  unfold lines? preface?
  split
  · rw [Option.map_map]
    congr 1
    funext top
    exact List.append_cons top [] (body c a)
  · rfl

theorem cut?_eq_none {limit : Int} {count : Nat} (h : limit ≤ 0 ∨ (count : Int) ≤ limit) :
    cut? limit count = none := by
  rw [cut?, if_neg]
  simp only [Bool.and_eq_true, decide_eq_true_eq, not_and]
  omega

theorem body_eq_groups (hshown : a.isEmpty = false) (hlimit : c.config.groupLimit ≤ 0) :
    body c a =
      groupedHeader (Report.groups c a).length :: (Report.groups c a).flatMap (·.lines c) := by
  rw [body, if_neg (by simp [hshown]), groupedLines, cut?_eq_none (.inl hlimit)]

/-- A report without a limit has the lines of its groups one after the other, in the order of their
lowered names, and each finding in the group of its name. Each group has its own lines: a summary
and a line for each finding, or else a line for each file. There is no report only if it is verbose
and a total is too large to show. -/
theorem exists_isGrouping_lines? (hshown : a.isEmpty = false) (hlimit : c.config.groupLimit ≤ 0) :
    (lines? c a = none ↔ c.config.verbose = true ∧
      (Bytes.text? a.rawSize = none ∨ Bytes.text? a.findingsSize = none)) ∧
    ∃ groups, IsGrouping c a groups ∧
      lines? c a = (preface? c a).map
        (· ++ groupedHeader groups.length :: groups.flatMap (·.lines c)) ∧
      (groups.flatMap (·.findings)).Perm a.findings ∧
      ∀ g ∈ groups,
        (g.findings ≠ [] → g.lines c = g.summary c :: g.findings.map (·.line c)) ∧
        (g.findings = [] → g.lines c = g.files.map (g.fileLine c)) := by
  have hgrouping := isGrouping_groups c a
  refine ⟨lines?_eq_none_iff, Report.groups c a, hgrouping, ?_, hgrouping.findings_flatMap_perm,
    fun g _ => ⟨fun hsome => ?_, fun hnone => ?_⟩⟩
  · rw [lines?_eq_map_preface?, body_eq_groups hshown hlimit]
  · rw [ReportGroup.lines, if_neg (by simpa using hsome)]
  · rw [ReportGroup.lines, if_pos (by simpa using hnone)]

def plainContext : ReportContext where
  config :=
    { debugMap := Path.ofText "/m/debug".toList
      releaseMap := Path.ofText "/m/release".toList
      root := none
      demangles := false
      groupLimit := 0
      output := none
      verbose := false
      sourcePrefixes := []
      withDependencies := false }
  tree := { root := .empty, current := [] }

/-- The analysis of two objects of one name. The first has a symbol that is reported and one that
the release build has as well, and the second has none. -/
def namesakes : Analysis :=
  analyze { tree := { root := .empty, current := [['b']] }, root := none, index := ∅ } false (fun _ _ => none)
    { objects := ⟨[⟨1, "/b/x/A.o".toList⟩, ⟨2, "/b/y/A.o".toList⟩], by decide⟩
      symbols :=
        [⟨0x1000, 16, 1, "_$s3App4loadyyF".toList⟩, ⟨0x1010, 16, 1, "_$s3App4pingyyF".toList⟩]
      lineCount := 8 }
    { objects := ⟨[⟨1, "/b/Main.o".toList⟩], by decide⟩
      symbols := [⟨0x1000, 16, 1, "_$s3App4pingyyF".toList⟩]
      lineCount := 6 }

theorem isEmpty_namesakes : namesakes.isEmpty = false := by decide +kernel

theorem isGrouping_lines?_namesakes :
    namesakes.isEmpty = false ∧ ∃ groups, IsGrouping plainContext namesakes groups ∧
      lines? plainContext namesakes =
        some (groupedHeader groups.length :: groups.flatMap (·.lines plainContext)) := by
  obtain ⟨-, groups, hgrouping, hlines, -⟩ :=
    @exists_isGrouping_lines? plainContext namesakes isEmpty_namesakes (by decide)
  exact ⟨isEmpty_namesakes, groups, hgrouping, hlines⟩

end Report

end LinkAudit
