import LinkAudit.Proofs.Mangled.Length
import LinkAudit.Proofs.Text.Stretch

/-!
Mangled names in their parts. No segment is empty, and the module of a name is one of its segments.
-/

namespace LinkAudit

namespace Mangled

theorem items_segment_ne_nil {t text : Text} (h : Item.segment text ∈ items t) : text ≠ [] := by
  -- only a digit opens a segment, and only where the length it spells is positive
  induction t using items.induct with
  | case1 => simp [items] at h
  | case2 c rest hdigit after length hwithin ih =>
      rw [items_cons_of_fits hdigit hwithin, List.mem_cons] at h
      rcases h with h | h
      · have hdigits := (Text.isStretch_cons_takeWhile hdigit rest).inside
        obtain ⟨-, hpos, hle⟩ := (lengthWithin?_eq_some_iff hdigits).mp hwithin
        rw [Item.segment.inj h, ← List.length_pos_iff, List.length_take]
        exact Nat.lt_min.mpr ⟨hpos, Nat.lt_of_lt_of_le hpos hle⟩
      · exact ih h
  | case3 c rest hdigit after hmisfit =>
      rw [items_cons_of_misfits hdigit hmisfit] at h
      simp at h
  | case4 c rest hdigit ih =>
      rw [items_cons_of_not_digit hdigit, List.mem_cons] at h
      rcases h with h | h
      · simp at h
      · exact ih h

theorem ne_nil_of_mem_segments {name text : Text} (h : text ∈ (ofText name).segments) :
    text ≠ [] := by
  obtain ⟨item, hitem, hsegment⟩ := List.mem_filterMap.mp h
  cases item with
  | segment found =>
      obtain rfl : found = text := Option.some.inj hsegment
      exact items_segment_ne_nil hitem
  | run found => simp [Item.segment?] at hsegment

theorem mem_segments_of_module? {m : Mangled} {home : Text} (h : m.module? = some home) :
    home ∈ m.segments := by
  rw [module?] at h
  split at h
  · exact List.mem_of_getElem? h
  · exact List.mem_of_head? h

end Mangled

/-- A name's module is the one that its mangled part declares. -/
theorem moduleOf?_of_canonical? {name canonical : Text}
    (h : Mangled.canonical? name = some canonical) :
    moduleOf? name = (Mangled.ofText canonical).module? := by
  rw [moduleOf?, h, Option.bind_some]
  cases hmodule : (Mangled.ofText canonical).module? with
  | none => rfl
  | some home =>
      have hne : home ≠ [] :=
        Mangled.ne_nil_of_mem_segments (Mangled.mem_segments_of_module? hmodule)
      simp [Text.nonempty?, hne]

end LinkAudit
