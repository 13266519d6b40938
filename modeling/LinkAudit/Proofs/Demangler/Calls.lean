import LinkAudit.Proofs.Demangler.Batch
import Mathlib.Data.List.Sort

/-!
The calls of a demangling run. A list is cut into pieces of one size in one way only, and so there
is one way only to hand out the canonical forms of the names, each once and in increasing order, in
batches of one size. Main statement: those are the batches that the tool is called with, one call
for each, and there is no call only if no name has a canonical form.
-/

namespace LinkAudit

namespace Demangler

section Chunks

variable {α : Type} {size : Nat} {piece : List α} {pieces : List (List α)}

/-- Whether the pieces hold between one element and the size, and all but the last just as many as
the size. -/
structure IsCut (size : Nat) (pieces : List (List α)) : Prop where
  positive : ∀ piece ∈ pieces, 1 ≤ piece.length
  bounded : ∀ piece ∈ pieces, piece.length ≤ size
  full : ∀ piece ∈ pieces.dropLast, piece.length = size

theorem isCut_nil : IsCut size ([] : List (List α)) := ⟨by simp, by simp, by simp⟩

theorem isCut_cons_iff : IsCut size (piece :: pieces) ↔
    1 ≤ piece.length ∧ piece.length ≤ size ∧ (pieces ≠ [] → piece.length = size) ∧
      IsCut size pieces := by
  cases pieces with
  | nil =>
      constructor
      · rintro ⟨hpositive, hbounded, -⟩
        exact ⟨hpositive piece List.mem_cons_self, hbounded piece List.mem_cons_self, by simp,
          isCut_nil⟩
      · rintro ⟨hpositive, hbounded, -⟩
        exact ⟨by simpa using hpositive, by simpa using hbounded, by simp⟩
  | cons next rest =>
      constructor
      · rintro ⟨hpositive, hbounded, hfull⟩
        rw [List.dropLast_cons_cons] at hfull
        obtain ⟨hpositive, hpositives⟩ := List.forall_mem_cons.mp hpositive
        obtain ⟨hbounded, hboundeds⟩ := List.forall_mem_cons.mp hbounded
        obtain ⟨hfull, hfulls⟩ := List.forall_mem_cons.mp hfull
        exact ⟨hpositive, hbounded, fun _ => hfull, hpositives, hboundeds, hfulls⟩
      · rintro ⟨hpositive, hbounded, hfull, hpositives, hboundeds, hfulls⟩
        refine ⟨List.forall_mem_cons.mpr ⟨hpositive, hpositives⟩,
          List.forall_mem_cons.mpr ⟨hbounded, hboundeds⟩, ?_⟩
        rw [List.dropLast_cons_cons]
        exact List.forall_mem_cons.mpr ⟨hfull (List.cons_ne_nil _ _), hfulls⟩

theorem isCut_chunks (size : Nat) (l : List α) : IsCut size (chunks size l) := by
  induction l using chunks.induct size with
  | case1 l hstop =>
      rw [chunks, dif_pos hstop]
      exact isCut_nil
  | case2 l hgo ih =>
      rw [chunks, dif_neg hgo, isCut_cons_iff]
      simp only [Bool.or_eq_true, List.isEmpty_iff, beq_iff_eq, not_or] at hgo
      have hlength := List.length_pos_iff.mpr hgo.1
      refine ⟨?_, List.length_take_le _ _, fun hmore => ?_, ih⟩
      · rw [List.length_take]
        omega
      · -- further pieces come from what the first one has left over
        have hleft : l.drop size ≠ [] := by
          intro hnil
          rw [hnil, chunks, dif_pos (by simp)] at hmore
          exact hmore rfl
        rw [ne_eq, List.drop_eq_nil_iff] at hleft
        rw [List.length_take]
        omega

/-- A list is cut into pieces of one size in one way only. -/
theorem IsCut.eq_chunks (h : IsCut size pieces) : pieces = chunks size pieces.flatten := by
  induction pieces with
  | nil =>
      rw [chunks, dif_pos (by simp)]
  | cons piece pieces ih =>
      obtain ⟨hpositive, hbounded, hfull, hpieces⟩ := isCut_cons_iff.mp h
      have hgo : ¬((piece :: pieces).flatten.isEmpty || size == 0) = true := by
        rw [List.flatten_cons, Bool.or_eq_true, List.isEmpty_iff, List.append_eq_nil_iff,
          beq_iff_eq, ← List.length_eq_zero_iff]
        omega
      rw [chunks, dif_neg hgo, List.flatten_cons]
      by_cases hlast : pieces = []
      · rw [hlast, List.flatten_nil, List.append_nil, List.take_of_length_le hbounded,
          List.drop_of_length_le hbounded, chunks, dif_pos (by simp)]
      · rw [List.take_left' (hfull hlast), List.drop_left' (hfull hlast), ← ih hpieces]

end Chunks

variable {names : List Text} {size : Nat} {all : List (List Text)}

/-- Whether the lists are a way to hand out the canonical forms of the names: each form once, in
increasing order, and as many in each list as the size allows. -/
structure IsBatching (size : Nat) (names : List Text) (all : List (List Text)) : Prop
    extends IsCut size all where
  increasing : all.flatten.Pairwise (· < ·)
  mem_iff : ∀ form, form ∈ all.flatten ↔ ∃ name ∈ names, Mangled.canonical? name = some form

theorem isBatching_batches (hsize : 1 ≤ size) (names : List Text) :
    IsBatching size names (batches size names) where
  toIsCut := isCut_chunks _ _
  increasing := by
    rw [batches, flatten_chunks hsize]
    exact Text.pairwise_lt_distinct _
  mem_iff form := List.mem_flatten.trans (exists_batch_iff hsize)

/-- There is no other way to hand them out. -/
theorem IsBatching.eq_batches (h : IsBatching size names all) : all = batches size names := by
  have hforms : all.flatten = Text.distinct (names.filterMap Mangled.canonical?) := by
    apply h.increasing.eq_of_mem_iff (Text.pairwise_lt_distinct _)
    intro form
    rw [h.mem_iff, Text.mem_distinct, List.mem_filterMap]
  rw [h.toIsCut.eq_chunks, hforms, batches]

theorem batches_eq_nil_iff (hsize : 1 ≤ size) :
    batches size names = [] ↔ ∀ name ∈ names, Mangled.canonical? name = none := by
  have hbatching := isBatching_batches hsize names
  constructor
  · intro hnil name hname
    rw [hnil] at hbatching
    apply Option.eq_none_iff_forall_ne_some.mpr
    intro form hform
    exact List.not_mem_nil ((hbatching.mem_iff form).mpr ⟨name, hname, hform⟩)
  · intro hnone
    apply List.eq_nil_iff_forall_not_mem.mpr
    intro batch hbatch
    obtain ⟨form, hform⟩ := List.exists_mem_of_length_pos (hbatching.positive batch hbatch)
    obtain ⟨name, hname, hcanonical⟩ :=
      (hbatching.mem_iff form).mp (List.mem_flatten.mpr ⟨batch, hbatch, hform⟩)
    rw [hnone name hname] at hcanonical
    cases hcanonical

/-- What the tool yields for the names in calls with the given words, one after the other. -/
def gathered (tool : Tool) (names : List Text) (calls : List (List Text)) : Yield :=
  let yields := calls.mapIdx fun number words => (tool words).yield number
  ⟨textsFor yields names, yields.flatMap (·.warnings)⟩

/-- No batch is empty, and so each of them is a call. -/
theorem demangle_eq_gathered (tool : Tool) (command : List Text) (size : Nat)
    (names : List Text) :
    demangle tool command size names = gathered tool names (calls command size names) := by
  have hyields : (batches size names).mapIdx (runBatch tool command) =
      (calls command size names).mapIdx fun number words => (tool words).yield number := by
    rw [List.mapIdx_eq_iff]
    intro i
    rw [List.getElem?_mapIdx, calls, List.getElem?_map]
    cases hbatch : (batches size names)[i]? with
    | none => rfl
    | some batch =>
        have hne : batch ≠ [] := ne_nil_of_mem_chunks (List.mem_of_getElem? hbatch)
        simp [runBatch, hne]
  rw [demangle, hyields, gathered]

theorem warnings_demangle (tool : Tool) (command : List Text) (size : Nat) (names : List Text) :
    (demangle tool command size names).warnings = warnings tool (calls command size names) := by
  rw [demangle_eq_gathered]
  rfl

/-- The tool is called once for each batch, with the command's own words and the batch behind them.
The batches are the only way to hand out the canonical forms of the names, each once and in
increasing order, so that each batch has between one form and the size, and all but the last as many
as the size. There is none only if no name has a canonical form. -/
theorem demangle_calls_batches (tool : Tool) (command names : List Text) (size : Nat)
    (hsize : 1 ≤ size) :
    (∀ all, IsBatching size names all ↔ all = batches size names) ∧
      (batches size names = [] ↔ ∀ name ∈ names, Mangled.canonical? name = none) ∧
      demangle tool command size names =
        gathered tool names ((batches size names).map (command ++ ·)) := by
  refine ⟨fun all => ⟨IsBatching.eq_batches, ?_⟩, batches_eq_nil_iff hsize,
    demangle_eq_gathered tool command size names⟩
  rintro rfl
  exact isBatching_batches hsize names

theorem isBatching_mixedNames :
    1 ≤ 2 ∧ IsBatching 2 mixedNames
      [["$s1a1b".toList, "$s1p1q".toList], ["$s1x1y".toList]] := by
  obtain ⟨hbatching, -⟩ := demangle_calls_batches pickyTool [] mixedNames 2 (by decide)
  exact ⟨by decide, (hbatching _).mpr (by decide +kernel)⟩

end Demangler

end LinkAudit
