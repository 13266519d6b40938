import LinkAudit.Proofs.Comparison.Duplicates
import LinkAudit.Proofs.Comparison.Reordering
import Mathlib.Data.List.Perm.Subperm

/-!
The counts and sizes of an analysis. Up to their order the reported symbols are some of the raw
ones, and those are some of the symbols of the debug build, so that counts and sizes can only fall
from one stage to the next. Main statement: they do, and without demangling the symbols that are
filtered out and those that are reported are as many as there are raw names whose first symbol can
be attributed.
-/

namespace LinkAudit

/-- What is made of some elements of a list is a part of what is made of all of them. -/
theorem map_filterMap_sublist {α β γ : Type} {pick : α → Option β} {onPicked : β → γ}
    {onAll : α → γ} (h : ∀ a b, pick a = some b → onPicked b = onAll a) (l : List α) :
    ((l.filterMap pick).map onPicked).Sublist (l.map onAll) := by
  induction l with
  | nil => exact List.Sublist.refl []
  | cons a l ih =>
      rw [List.map_cons]
      cases hpick : pick a with
      | none =>
          rw [List.filterMap_cons_none hpick]
          exact ih.cons (onAll a)
      | some b =>
          rw [List.filterMap_cons_some hpick, List.map_cons, h a b hpick]
          exact ih.cons_cons (onAll a)

namespace Symbol

theorem totalSize_le_of_sublist {symbols symbols' : List Symbol} (h : symbols.Sublist symbols') :
    totalSize symbols ≤ totalSize symbols' := by
  induction h with
  | slnil => exact Nat.le_refl 0
  | cons s _ ih => exact Nat.le_trans ih (Nat.le_add_left _ s.size)
  | cons_cons s _ ih => exact Nat.add_le_add_left ih s.size

theorem totalSize_le_of_subperm {symbols symbols' : List Symbol} (h : symbols.Subperm symbols') :
    totalSize symbols ≤ totalSize symbols' := by
  obtain ⟨inner, hperm, hsublist⟩ := h
  rw [← totalSize_eq_of_perm hperm]
  exact totalSize_le_of_sublist hsublist

end Symbol

variable {project : Project} {debug release : LinkMap} {text? : Text → Option Text}

namespace Survey

/-- A raw symbol is one of the debug build's modules whose name the release does not keep. -/
theorem mem_raw {s : Symbol} :
    s ∈ (ofMaps project debug release).raw ↔
      s ∈ debug.symbols ∧ isInModules (Modules.ofProject debug) s.name = true ∧
        ¬release.Keeps s.name := by
  rw [raw_eq_filter, List.mem_filter, isRawName, Bool.and_eq_true, Bool.not_eq_true',
    ← Bool.not_eq_true, ReleaseSide.contains_keptNames_iff]

theorem raw_sublist : (ofMaps project debug release).raw.Sublist debug.symbols := by
  rw [raw_eq_filter]
  exact List.filter_sublist

theorem attributed_sublist (debug : LinkMap) (raw : List Symbol) :
    (attributed debug raw).Sublist raw :=
  List.filter_sublist.trans (firstBy_sublist _ raw)

/-- Findings are made of survivors, one of each at most. -/
theorem map_symbol_findings_subperm (v : Survey) (text? : Text → Option Text) :
    ((v.findings text?).map (·.symbol)).Subperm (v.survivors.map (·.1)) := by
  have hsorted := (List.mergeSort_perm (v.survivors.filterMap fun s =>
    v.finding? v.displayModules s (text? s.1.name)) fun a b => (Finding.order a b).isLE).map
      (·.symbol)
  exact hsorted.subperm.trans (map_filterMap_sublist (fun _ _ => symbol_finding?) _).subperm

theorem map_fst_survivors_sublist (v : Survey) :
    (v.survivors.map (·.1)).Sublist (v.hinted.map (·.1)) := by
  have hkept : v.survivors.Sublist v.hinted := List.filter_sublist
  exact hkept.map (·.1)

theorem length_findings_le (v : Survey) (text? : Text → Option Text) :
    (v.findings text?).length ≤ v.survivors.length := by
  simpa using (v.map_symbol_findings_subperm text?).length_le

theorem length_survivors_le (v : Survey) : v.survivors.length ≤ v.hinted.length :=
  List.length_filter_le _ _

/-- Without texts every survivor is reported. -/
theorem length_findings_none (v : Survey) :
    (v.findings fun _ => none).length = v.survivors.length := by
  simp [findings, finding?]

theorem length_hinted_le :
    (ofMaps project debug release).hinted.length ≤ (ofMaps project debug release).raw.length := by
  simpa using (map_fst_hinted_sublist.trans (attributed_sublist _ _)).length_le

theorem map_symbol_findings_subperm_raw :
    (((ofMaps project debug release).findings text?).map (·.symbol)).Subperm
      (ofMaps project debug release).raw := by
  have hhinted := (map_fst_survivors_sublist (ofMaps project debug release)).trans
    (map_fst_hinted_sublist.trans (attributed_sublist _ _))
  exact (map_symbol_findings_subperm _ text?).trans hhinted.subperm

/-- The names of the hinted symbols are the raw names whose first symbols can be attributed. -/
theorem mem_names_hinted {name : Text} :
    name ∈ (ofMaps project debug release).hinted.map (·.1.name) ↔
      ∃ first, (ofMaps project debug release).raw.find? (·.name == name) = some first ∧
        IsAttributable project debug first := by
  constructor
  · intro h
    obtain ⟨⟨s, hint⟩, hs, rfl⟩ := List.mem_map.mp h
    obtain ⟨hattributed, rfl, hsourced⟩ := mem_hinted.mp hs
    obtain ⟨hfirst, howned⟩ := List.mem_filter.mp hattributed
    rw [Bool.not_eq_true', isIgnored_eq_false_iff] at howned
    exact ⟨s, mem_firstBy.mp hfirst, howned, hsourced⟩
  · rintro ⟨first, hfirst, howned, hsourced⟩
    obtain rfl : first.name = name := by simpa using List.find?_some hfirst
    have hattributed : first ∈ attributed debug (ofMaps project debug release).raw := by
      rw [attributed, List.mem_filter, mem_firstBy, Bool.not_eq_true', isIgnored_eq_false_iff]
      exact ⟨hfirst, howned⟩
    exact List.mem_map.mpr ⟨(first, project.symbolHint debug first),
      mem_hinted.mpr ⟨hattributed, rfl, hsourced⟩, rfl⟩

end Survey

/-- How the counts and sizes of an analysis go together, given its raw symbols. -/
structure Analysis.AddsUp (a : Analysis) (raw : List Symbol) : Prop where
  nodup_names : (a.findings.map (·.symbol.name)).Nodup
  mem_raw : ∀ f ∈ a.findings, f.symbol ∈ raw
  rawCount_eq : a.rawCount = raw.length
  rawSize_eq : a.rawSize = Symbol.totalSize raw
  rawCount_le : a.rawCount ≤ a.debugCount
  filteredCount_add_le : a.filteredCount + a.findings.length ≤ a.rawCount
  findingsSize_le : a.findingsSize ≤ a.rawSize

theorem Survey.addsUp_conclude (project now : Project) (debug release : LinkMap)
    (text? : Text → Option Text) :
    ((ofMaps project debug release).conclude now text?).AddsUp (ofMaps project debug release).raw
    where
  nodup_names := nodup_names_findings nodup_names_survivors
  mem_raw _ hf := map_symbol_findings_subperm_raw.subset (List.mem_map_of_mem hf)
  rawCount_eq := rfl
  rawSize_eq := rfl
  rawCount_le := raw_sublist.length_le
  filteredCount_add_le := by
    have hfindings := length_findings_le (ofMaps project debug release) text?
    have hsurvivors := length_survivors_le (ofMaps project debug release)
    have hhinted : (ofMaps project debug release).hinted.length ≤ _ := length_hinted_le
    simp only [conclude]
    omega
  findingsSize_le := Symbol.totalSize_le_of_subperm map_symbol_findings_subperm_raw

/-- Counts and sizes add up, whatever the demangler answers and even if it changes the tree. The raw
symbols are the debug symbols of the debug build's modules whose names the release does not keep.
Without demangling, the symbols filtered out and those reported are as many as there are raw names
whose first symbol can be attributed. -/
theorem addsUp_analyze (project : Project) (reader : NameReader) (debug release : LinkMap) :
    let raw := (Survey.ofMaps project debug release).raw
    let off := analyze project false reader debug release
    (∀ s, s ∈ raw ↔ s ∈ debug.symbols ∧ isInModules (Modules.ofProject debug) s.name = true ∧
      ¬release.Keeps s.name) ∧
    (∀ demangles, (analyze project demangles reader debug release).AddsUp raw) ∧
    (∀ now text?, ((Survey.ofMaps project debug release).conclude now text?).AddsUp raw) ∧
    ∃ names : List Text, names.Nodup ∧
      (∀ name, name ∈ names ↔ ∃ first, raw.find? (·.name == name) = some first ∧
        IsAttributable project debug first) ∧
      off.filteredCount + off.findings.length = names.length := by
  intro raw off
  refine ⟨fun s => Survey.mem_raw, fun demangles => Survey.addsUp_conclude project project _ _ _,
    fun now => Survey.addsUp_conclude project now _ _,
    (Survey.ofMaps project debug release).hinted.map (·.1.name), Survey.nodup_names_hinted,
    fun name => Survey.mem_names_hinted, ?_⟩
  have hfindings : off.findings.length = (Survey.ofMaps project debug release).survivors.length :=
    Survey.length_findings_none _
  have hsurvivors := Survey.length_survivors_le (Survey.ofMaps project debug release)
  have hfiltered : off.filteredCount = (Survey.ofMaps project debug release).hinted.length -
      (Survey.ofMaps project debug release).survivors.length := rfl
  rw [List.length_map, hfindings, hfiltered]
  omega

end LinkAudit
