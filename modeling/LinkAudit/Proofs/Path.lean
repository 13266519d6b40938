import LinkAudit.FileTree
import LinkAudit.Proofs.Text.Split

/-!
Paths below a base. Ordinary components are read as they are and never resolved away, so that they
stand at the end of the normal path as they stood in the path itself. A path is therefore seen from
its base by the components that were joined to the base, except where the base is a root: the slash
that is looked for behind the base is there already, so that the path does not look as if it were
below it and is shown by its name alone.
-/

namespace LinkAudit.Path

/-- A component that names an entry of a directory. -/
structure IsOrdinary (part : Text) : Prop where
  ne_nil : part ≠ []
  slash_not_mem : '/' ∉ part
  ne_here : part ≠ ['.']
  ne_above : part ≠ ['.', '.']

instance (part : Text) : Decidable (IsOrdinary part) :=
  decidable_of_iff (part ≠ [] ∧ '/' ∉ part ∧ part ≠ ['.'] ∧ part ≠ ['.', '.'])
    ⟨fun ⟨hne, hslash, hhere, habove⟩ => ⟨hne, hslash, hhere, habove⟩,
      fun ⟨hne, hslash, hhere, habove⟩ => ⟨hne, hslash, hhere, habove⟩⟩

/-- A component that is kept when a path is read. -/
structure IsComponent (part : Text) : Prop where
  ne_nil : part ≠ []
  slash_not_mem : '/' ∉ part
  ne_here : part ≠ ['.']

theorem IsOrdinary.isComponent {part : Text} (h : IsOrdinary part) : IsComponent part :=
  ⟨h.ne_nil, h.slash_not_mem, h.ne_here⟩

def joined (base : Path) (components : List Text) : Path :=
  components.foldl (fun path part => path / ofText part) base

theorem ofText_of_isComponent {part : Text} (h : IsComponent part) :
    ofText part = ⟨.here, [part]⟩ := by
  obtain ⟨hne, hslash, hhere⟩ := h
  obtain ⟨c, rest, rfl⟩ := List.exists_cons_of_ne_nil hne
  have hc : c ≠ '/' := fun heq => hslash (heq ▸ List.mem_cons_self)
  rw [ofText, Text.splitOn_of_not_mem hslash, List.takeWhile_cons_of_neg (by simpa using hc)]
  simp [hhere]

theorem isComponent_of_mem_parts_ofText {t part : Text} (h : part ∈ (ofText t).parts) :
    IsComponent part := by
  obtain ⟨hpiece, hkept⟩ := List.mem_filter.mp h
  simp only [Bool.and_eq_true, Bool.not_eq_true', List.isEmpty_eq_false_iff, bne_iff_ne] at hkept
  exact ⟨hkept.1, fun hslash => (Text.mem_of_mem_splitOn hpiece hslash).2 rfl, hkept.2⟩

variable {base path current : Path} {components names : List Text} {tree : FileTree}

theorem joined_eq (h : ∀ part ∈ components, IsOrdinary part) :
    base.joined components = ⟨base.anchor, base.parts ++ components⟩ := by
  induction components generalizing base with
  | nil => simp [joined]
  | cons part rest ih =>
      rw [List.forall_mem_cons] at h
      have hpart : base / ofText part = ⟨base.anchor, base.parts ++ [part]⟩ := by
        rw [ofText_of_isComponent h.1.isComponent]
        rfl
      have hrest := @ih ⟨base.anchor, base.parts ++ [part]⟩ h.2
      rw [joined] at hrest ⊢
      rw [List.foldl_cons, hpart, hrest, List.append_assoc]
      rfl

/-- Components are joined at the end, wherever the path starts from. -/
theorem append_extended :
    current / ⟨path.anchor, path.parts ++ names⟩ =
      (⟨(current / path).anchor, (current / path).parts ++ names⟩ : Path) := by
  obtain ⟨anchor, parts⟩ := path
  cases anchor with
  | here => exact congrArg _ (List.append_assoc _ _ _).symm
  | root => rfl
  | doubleRoot => rfl

theorem name_extended (h : names ≠ []) :
    name { path with parts := path.parts ++ names } = names.getLast h := by
  rw [name, List.getLast?_append, List.getLast?_eq_some_getLast h]
  rfl

/-- Only `..` takes components away. -/
theorem foldl_climb (above : List Text) (h : ∀ part ∈ components, IsOrdinary part) :
    components.foldl climb above = components.reverse ++ above := by
  induction components generalizing above with
  | nil => rfl
  | cons part rest ih =>
      rw [List.forall_mem_cons] at h
      rw [List.foldl_cons, climb, if_neg h.1.ne_above, ih _ h.2]
      simp

theorem normal_joined (h : ∀ part ∈ components, IsOrdinary part) :
    (base.joined components).normal current =
      ⟨(base.normal current).anchor, (base.normal current).parts ++ components⟩ := by
  rw [joined_eq h, normal, append_extended, normal]
  simp [foldl_climb _ h]

/-- A normal path starts from a root, as the current directory does. -/
theorem toText_normal (path : Path) :
    (path.normal tree.here).toText =
      (path.normal tree.here).anchor.text ++ Text.joinWith ['/'] (path.normal tree.here).parts := by
  obtain ⟨anchor, parts⟩ := path
  cases anchor <;> rfl

theorem toText_normal_joined (h : ∀ part ∈ components, IsOrdinary part) :
    ((base.joined components).normal tree.here).toText =
      (base.normal tree.here).anchor.text ++
        Text.joinWith ['/'] ((base.normal tree.here).parts ++ components) := by
  rw [toText_normal, normal_joined h]

theorem name_joined (h : ∀ part ∈ components, IsOrdinary part) (hne : components ≠ []) :
    (base.joined components).name = components.getLast hne := by
  rw [joined_eq h, name_extended hne]

/-- Below a base with components of its own, a path is seen by what was joined to the base. -/
theorem relativeText_joined_of_ne_nil (h : ∀ part ∈ components, IsOrdinary part)
    (hne : components ≠ []) (hbase : (base.normal tree.here).parts ≠ []) :
    (base.joined components).relativeText tree.here (some base) =
      Text.joinWith ['/'] components := by
  have hfull : ((base.joined components).normal tree.here).toText =
      (base.normal tree.here).toText ++ ['/'] ++ Text.joinWith ['/'] components := by
    rw [toText_normal_joined h, toText_normal, Text.joinWith_append hbase hne]
    simp
  have hprefix : ((base.normal tree.here).toText ++ ['/']).isPrefixOf
      ((base.joined components).normal tree.here).toText = true := by
    rw [hfull, List.isPrefixOf_iff_prefix]
    exact List.prefix_append _ _
  rw [relativeText, if_pos hprefix, hfull, List.drop_left]

theorem head?_joinWith (h : ∀ part ∈ components, IsOrdinary part) :
    (Text.joinWith ['/'] components).head? ≠ some '/' := by
  cases components with
  | nil => simp [Text.joinWith]
  | cons part rest =>
      obtain ⟨hpart, -⟩ := List.forall_mem_cons.mp h
      obtain ⟨c, letters, rfl⟩ := List.exists_cons_of_ne_nil hpart.ne_nil
      have hc : c ≠ '/' := fun heq => hpart.slash_not_mem (heq ▸ List.mem_cons_self)
      cases rest <;> simpa [Text.joinWith] using hc

/-- Below a root, a path is seen by its last component. -/
theorem relativeText_joined_of_eq_nil (h : ∀ part ∈ components, IsOrdinary part)
    (hne : components ≠ []) (hbase : (base.normal tree.here).parts = []) :
    (base.joined components).relativeText tree.here (some base) = components.getLast hne := by
  have hprefix : ¬((base.normal tree.here).toText ++ ['/']).isPrefixOf
      ((base.joined components).normal tree.here).toText = true := by
    rw [toText_normal_joined h, toText_normal, hbase, List.isPrefixOf_iff_prefix, List.nil_append]
    intro hprefix
    have hslash : ['/'] <+: Text.joinWith ['/'] components := by
      simpa [Text.joinWith] using hprefix
    obtain ⟨after, hafter⟩ := hslash
    exact head?_joinWith h (by rw [← hafter]; rfl)
  rw [relativeText, if_neg hprefix, name_joined h hne]

/-- Several components joined are none of them, for want of a slash. -/
theorem getLast_eq_joinWith_iff (h : ∀ part ∈ components, IsOrdinary part)
    (hne : components ≠ []) :
    components.getLast hne = Text.joinWith ['/'] components ↔ components.length = 1 := by
  cases components with
  | nil => exact absurd rfl hne
  | cons part rest =>
      cases rest with
      | nil => simp [Text.joinWith]
      | cons next rest =>
          have hslash : '/' ∈ Text.joinWith ['/'] (part :: next :: rest) := by
            simp [Text.joinWith]
          have hlast := (h _ (List.getLast_mem hne)).slash_not_mem
          constructor
          · intro heq
            rw [heq] at hlast
            exact absurd hslash hlast
          · intro hlength
            simp at hlength

/-- A path is seen from its base by the components that were joined to the base, if and only if the
base is no root or there is only one of them. Below a root it is the last component that is seen. -/
theorem relativeText_joined_iff (tree : FileTree) (base : Path) (components : List Text)
    (hne : components ≠ []) (h : ∀ part ∈ components, IsOrdinary part) :
    ((base.joined components).relativeText tree.here (some base) = Text.joinWith ['/'] components ↔
      (base.normal tree.here).parts ≠ [] ∨ components.length = 1) ∧
    ((base.normal tree.here).parts = [] →
      (base.joined components).relativeText tree.here (some base) = components.getLast hne) := by
  refine ⟨?_, relativeText_joined_of_eq_nil h hne⟩
  by_cases hbase : (base.normal tree.here).parts = []
  · rw [relativeText_joined_of_eq_nil h hne hbase, getLast_eq_joinWith_iff h hne]
    simp [hbase]
  · simp [relativeText_joined_of_ne_nil h hne hbase, hbase]

/-- Components joined to a base that climbs back to the directory it starts from. -/
theorem relativeText_joined_climbing :
    let tree : FileTree := { root := .empty, current := [['w'], ['x']] }
    let base := ofText "../p//..".toList
    let components := [".git".toList, "a b".toList, "c.swift".toList]
    components ≠ [] ∧ (∀ part ∈ components, IsOrdinary part) ∧
      (base.normal tree.here).parts = [['w']] ∧
      (base.joined components).relativeText tree.here (some base) =
        ".git/a b/c.swift".toList := by
  intro tree base components
  have hordinary : ∀ part ∈ components, IsOrdinary part := by decide
  have hbase : (base.normal tree.here).parts = [['w']] := by decide
  have hrelative := (relativeText_joined_iff tree base components (by decide) hordinary).1
  exact ⟨by decide, hordinary, hbase, hrelative.mpr (.inl (by rw [hbase]; decide))⟩

/-- Two components joined to the root are seen from there by the second one alone. -/
theorem relativeText_joined_root :
    let base := ofText ['/']
    let components := [['a'], ['b']]
    let tree : FileTree := { root := .empty, current := [] }
    (∀ part ∈ components, IsOrdinary part) ∧
      (base.joined components).relativeText tree.here (some base) = ['b'] ∧
      Text.joinWith ['/'] components = "a/b".toList := by
  decide

end LinkAudit.Path
