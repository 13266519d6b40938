import LinkAudit.Comparison.Analysis
import LinkAudit.Proofs.Comparison.Survey
import LinkAudit.Proofs.Order

/-!
The reported symbols. They are exactly the survivors of the survey whose demangled texts, as far as
there are any, are no noise, each of them once and in the order of a report. A reported symbol can
share its name with a release symbol only if the release disowns that name, which means that it
rejects the name on account of its own modules alone.
-/

namespace LinkAudit

namespace Finding

/-- The order of a report: by the display of the hint, then by falling size, then by the name
shown. -/
def Precedes (a b : Finding) : Prop :=
  a.hint.display < b.hint.display ∨
    a.hint.display = b.hint.display ∧
      (b.symbol.size < a.symbol.size ∨
        b.symbol.size = a.symbol.size ∧
          (a.displayName < b.displayName ∨ a.displayName = b.displayName))

theorem isLE_order_iff {a b : Finding} : (order a b).isLE = true ↔ a.Precedes b := by
  rw [order, Ordering.isLE_then_iff_or, Ordering.isLE_then_iff_or, Text.compare_eq_lt_iff,
    Std.LawfulEqCmp.compare_eq_iff_eq, Nat.compare_eq_lt, Std.LawfulEqCmp.compare_eq_iff_eq,
    Text.isLE_compare_iff]
  rfl

instance : Std.TransCmp order :=
  inferInstanceAs <| Std.TransCmp <| compareLex (compareOn fun f => f.hint.display) <|
    compareLex (fun a b => compareOn (fun f => f.symbol.size) b a) (compareOn displayName)

end Finding

variable {project : Project} {debug release : LinkMap}

namespace Survey

variable {v : Survey} {text? : Text → Option Text}

theorem finding?_eq_some_iff {modules : List Text} {s : HintedSymbol} {text : Option Text}
    {f : Finding} :
    v.finding? modules s text = some f ↔
      (∀ t, text = some t → Noise.inDemangled t = false) ∧
        f =
          { symbol := s.1
            owner := (v.debug.objectOf? s.1).map fun object =>
              ⟨object, if s.2.hasSource then s.2.path else none⟩
            hint := s.2
            demangled := text.map (Demangled.clean · modules) } := by
  have hquiet : text.any Noise.inDemangled = false ↔
      ∀ t, text = some t → Noise.inDemangled t = false := by
    cases text <;> simp
  rw [← hquiet, finding?]
  cases text.any Noise.inDemangled with
  | true => simp
  | false =>
      rw [if_neg Bool.false_ne_true, Option.some.injEq]
      exact ⟨fun h => ⟨rfl, h.symm⟩, fun h => h.2.symm⟩

theorem mem_findings {f : Finding} :
    f ∈ v.findings text? ↔
      ∃ s ∈ v.survivors, v.finding? v.displayModules s (text? s.1.name) = some f := by
  rw [findings, (List.mergeSort_perm _ _).mem_iff, List.mem_filterMap]

/-- The findings are in the order of a report. -/
theorem pairwise_precedes_findings : (v.findings text?).Pairwise Finding.Precedes := by
  apply (pairwise_mergeSort_isLE Finding.order _).imp
  intro a b h
  exact Finding.isLE_order_iff.mp h

theorem symbol_finding? {modules : List Text} {s : HintedSymbol} {text : Option Text}
    {f : Finding} (h : v.finding? modules s text = some f) : f.symbol = s.1 := by
  rw [(finding?_eq_some_iff.mp h).2]

theorem nodup_names_findings (h : (v.survivors.map (·.1.name)).Nodup) :
    ((v.findings text?).map (·.symbol.name)).Nodup := by
  rw [List.Nodup, List.pairwise_map] at h ⊢
  have hunsorted : (v.survivors.filterMap fun s =>
      v.finding? v.displayModules s (text? s.1.name)).Pairwise fun f g =>
        f.symbol.name ≠ g.symbol.name := by
    rw [List.pairwise_filterMap]
    apply h.imp
    intro s t hne f hf g hg
    rw [symbol_finding? hf, symbol_finding? hg]
    exact hne
  exact ((List.mergeSort_perm _ _).pairwise_iff Ne.symm).mpr hunsorted

def askedNames (v : Survey) : List Text := v.survivors.map (·.1.name)

/-- The demangler's texts. A demangler that is not asked has none. -/
def answers (v : Survey) (demangles : Bool) (reader : NameReader) : Text → Option Text :=
  match v.question? demangles with
  | some names => reader names
  | none => fun _ => none

/-- Where demangling is wanted, the demangler is asked about every survivor. -/
theorem answers_eq_some_iff {demangles : Bool} {reader : NameReader} {s : HintedSymbol} {t : Text}
    (hs : s ∈ v.survivors) :
    v.answers demangles reader s.1.name = some t ↔
      demangles = true ∧ reader v.askedNames s.1.name = some t := by
  have hasked : v.askedNames.isEmpty = false :=
    List.isEmpty_eq_false_iff.mpr (List.ne_nil_of_mem (List.mem_map_of_mem hs))
  have hquestion : v.question? demangles = if demangles then some v.askedNames else none := by
    change (if demangles && !v.askedNames.isEmpty then some v.askedNames else none) = _
    rw [hasked, Bool.not_false, Bool.and_true]
  rw [answers, hquestion]
  cases demangles with
  | true => simp
  | false => simp

/-- Where no demangling is wanted, there are no texts. -/
@[simp] theorem answers_false (v : Survey) (reader : NameReader) :
    v.answers false reader = fun _ => none := rfl

/-- The findings of a survey, by their symbols. -/
theorem mem_symbols_findings {s : Symbol} :
    s ∈ ((ofMaps project debug release).findings text?).map (·.symbol) ↔
      IsSurvivor project debug release s ∧
        ∀ t, text? s.name = some t → Noise.inDemangled t = false := by
  rw [List.mem_map]
  constructor
  · rintro ⟨f, hf, rfl⟩
    obtain ⟨⟨s, hint⟩, hs, hfinding⟩ := mem_findings.mp hf
    obtain ⟨hquiet, rfl⟩ := finding?_eq_some_iff.mp hfinding
    exact ⟨(mem_survivors.mp hs).1, hquiet⟩
  · rintro ⟨hs, hquiet⟩
    exact ⟨_, mem_findings.mpr ⟨(s, project.symbolHint debug s), mem_survivors.mpr ⟨hs, rfl⟩,
      finding?_eq_some_iff.mpr ⟨hquiet, rfl⟩⟩, rfl⟩

theorem isSurvivor_of_mem_findings {f : Finding}
    (h : f ∈ (ofMaps project debug release).findings text?) :
    IsSurvivor project debug release f.symbol :=
  (mem_symbols_findings.mp (List.mem_map_of_mem h)).1

theorem hint_of_mem_findings {f : Finding}
    (h : f ∈ (ofMaps project debug release).findings text?) :
    f.hint = project.symbolHint debug f.symbol := by
  obtain ⟨⟨s, hint⟩, hs, hfinding⟩ := mem_findings.mp h
  obtain ⟨-, rfl⟩ := finding?_eq_some_iff.mp hfinding
  exact (mem_survivors.mp hs).2

theorem owner_of_mem_findings {f : Finding}
    (h : f ∈ (ofMaps project debug release).findings text?) :
    f.owner = (debug.objectOf? f.symbol).map fun object =>
      ⟨object, if f.hint.hasSource then f.hint.path else none⟩ := by
  obtain ⟨s, -, hfinding⟩ := mem_findings.mp h
  obtain ⟨-, rfl⟩ := finding?_eq_some_iff.mp hfinding
  rfl

end Survey

/-- An analysis is what the survey concludes from the demangler's texts. -/
theorem analyze_eq_conclude (project : Project) (demangles : Bool) (reader : NameReader)
    (debug release : LinkMap) :
    analyze project demangles reader debug release =
      (Survey.ofMaps project debug release).conclude project
        ((Survey.ofMaps project debug release).answers demangles reader) :=
  rfl

theorem findings_analyze (demangles : Bool) (reader : NameReader) :
    (analyze project demangles reader debug release).findings =
      (Survey.ofMaps project debug release).findings
        ((Survey.ofMaps project debug release).answers demangles reader) :=
  rfl

/-- The reported symbols, exactly: the survivors whose demangled texts, where demangling is wanted
and the demangler has a text, are no noise. Each is reported once, with the hint for it, and the
reports are in order. -/
theorem mem_findings_analyze_iff (project : Project) (demangles : Bool) (reader : NameReader)
    (debug release : LinkMap) :
    let findings := (analyze project demangles reader debug release).findings
    let texts := reader (Survey.ofMaps project debug release).askedNames
    (∀ s, s ∈ findings.map (·.symbol) ↔
      IsSurvivor project debug release s ∧
        (demangles = true → ∀ t, texts s.name = some t → Noise.inDemangled t = false)) ∧
      (findings.map (·.symbol)).Nodup ∧
      (∀ f ∈ findings, f.hint = project.symbolHint debug f.symbol) ∧
      findings.Pairwise Finding.Precedes := by
  intro findings texts
  refine ⟨?_, ?_, ?_, Survey.pairwise_precedes_findings⟩
  · intro s
    rw [show findings = _ from findings_analyze demangles reader, Survey.mem_symbols_findings]
    apply and_congr_right
    intro hs
    have hmem : (s, project.symbolHint debug s) ∈ (Survey.ofMaps project debug release).survivors :=
      Survey.mem_survivors.mpr ⟨hs, rfl⟩
    constructor
    · intro hquiet hdemangles t ht
      exact hquiet t ((Survey.answers_eq_some_iff hmem).mpr ⟨hdemangles, ht⟩)
    · intro hquiet t ht
      obtain ⟨hdemangles, htext⟩ := (Survey.answers_eq_some_iff hmem).mp ht
      exact hquiet hdemangles t htext
  · have hnames : (findings.map (·.symbol.name)).Nodup :=
      Survey.nodup_names_findings Survey.nodup_names_survivors
    rw [List.Nodup, List.pairwise_map] at hnames ⊢
    exact hnames.imp fun hne heq => hne (congrArg Symbol.name heq)
  · intro f hf
    exact Survey.hint_of_mem_findings hf

/-- Whether the release rejects a name on account of its modules alone: the name is no bracketed
method, and the release has modules of its own without the name's module among them. -/
structure LinkMap.Disowns (release : LinkMap) (name : Text) : Prop where
  rejected : isReportable Mangled.reportableKinds (Modules.ofProject release) name = false
  noMethod : isMethodName name = false
  hasModules : Modules.ofProject release ≠ []
  elsewhere : ∀ home, moduleOf? name = some home → home ∉ Modules.ofProject release

theorem disowns_of_isSurvivor {s : Symbol} (hs : IsSurvivor project debug release s)
    (hname : release.HasName s.name) : release.Disowns s.name := by
  have hrejected : isReportable Mangled.reportableKinds (Modules.ofProject release) s.name =
      false := by
    rw [Bool.eq_false_iff]
    intro hkept
    exact hs.missing ⟨hname, hkept⟩
  obtain ⟨hmethod, hmodules, helsewhere⟩ :=
    not_mem_modules_of_isReportable hs.reportable hrejected
  exact ⟨hrejected, hmethod, hmodules, helsewhere⟩

/-- A reported symbol may share its name with a release symbol, but only where the release disowns
that name. It makes no difference what the demangler answers and whether it changes the tree. -/
theorem disowns_of_reported (project : Project) (demangles : Bool) (reader : NameReader)
    (debug release : LinkMap) :
    (∀ f ∈ (analyze project demangles reader debug release).findings,
      release.HasName f.symbol.name → release.Disowns f.symbol.name) ∧
    ∀ (now : Project) (text? : Text → Option Text),
      ∀ f ∈ ((Survey.ofMaps project debug release).conclude now text?).findings,
        release.HasName f.symbol.name → release.Disowns f.symbol.name := by
  have hconclude (now : Project) (text? : Text → Option Text) :
      ∀ f ∈ ((Survey.ofMaps project debug release).conclude now text?).findings,
        release.HasName f.symbol.name → release.Disowns f.symbol.name := by
    intro f hf hname
    exact disowns_of_isSurvivor (Survey.isSurvivor_of_mem_findings hf) hname
  exact ⟨hconclude project _, hconclude⟩

def bareProject : Project :=
  { tree := { root := .empty, current := [] }, root := none, index := ∅ }

/-- A build that links a function of its application from an object. -/
def objectBuild : LinkMap where
  objects := ⟨[⟨1, "/b/App.o".toList⟩, ⟨2, "/b/Lib.o".toList⟩], by decide⟩
  symbols := [⟨0x1000, 16, 1, "_$s3App4loadyyF".toList⟩, ⟨0x1010, 16, 2, "_$s3Lib4pingyyF".toList⟩]
  lineCount := 8

/-- A build that links the same function from a framework. -/
def frameworkBuild : LinkMap where
  objects := ⟨[⟨1, "/b/App.framework/App".toList⟩, ⟨2, "/b/Lib.o".toList⟩], by decide⟩
  symbols := objectBuild.symbols
  lineCount := 8

theorem exists_finding_frameworkBuild :
    ∃ f ∈ (analyze bareProject false (fun _ _ => none) objectBuild frameworkBuild).findings,
      f.symbol.name = "_$s3App4loadyyF".toList := by
  have hnames : (analyze bareProject false (fun _ _ => none) objectBuild
      frameworkBuild).findings.map (·.symbol.name) = ["_$s3App4loadyyF".toList] := by
    decide +kernel
  apply List.mem_map.mp
  rw [hnames]
  exact List.mem_cons_self

theorem hasName_frameworkBuild : frameworkBuild.HasName "_$s3App4loadyyF".toList :=
  ⟨_, List.mem_cons_self, rfl⟩

/-- A symbol is reported although the release has one of its name, in a framework. -/
theorem exists_reported_named_in_release :
    ∃ f ∈ (analyze bareProject false (fun _ _ => none) objectBuild frameworkBuild).findings,
      frameworkBuild.HasName f.symbol.name := by
  obtain ⟨f, hf, hname⟩ := exists_finding_frameworkBuild
  exact ⟨f, hf, hname ▸ hasName_frameworkBuild⟩

theorem disowns_frameworkBuild :
    ∃ f ∈ (analyze bareProject false (fun _ _ => none) objectBuild frameworkBuild).findings,
      frameworkBuild.HasName f.symbol.name ∧ frameworkBuild.Disowns f.symbol.name := by
  obtain ⟨f, hf, hname⟩ := exists_finding_frameworkBuild
  have hrelease : frameworkBuild.HasName f.symbol.name := hname ▸ hasName_frameworkBuild
  exact ⟨f, hf, hrelease, (disowns_of_reported _ _ _ _ _).1 f hf hrelease⟩

end LinkAudit
