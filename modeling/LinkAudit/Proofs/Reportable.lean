import LinkAudit.Proofs.Mangled
import LinkAudit.Reportable

/-!
What the kinds and the modules decide about a name. Of a reportable name they are asked only if it
is no bracketed method, and then the modules decide by the name's own module, independently of the
kinds. More kinds and more modules accept more names, and no modules, which stand for all of them,
accept the most.
-/

namespace LinkAudit

/-- Whether a name with these parts declares something of one of the kinds in one of the modules. No
modules stand for all modules. -/
def Mangled.Declares (kinds modules : List Text) (m : Mangled) : Prop :=
  ∃ source, m.kindSource? = some source ∧ (kindCode source).upper ≠ [] ∧
    (kindCode source).upper ∈ kinds ∧ (modules = [] ∨ ∃ home ∈ m.module?, home ∈ modules)

theorem isDeclarationIn_iff {kinds modules : List Text} {name : Text} :
    isDeclarationIn kinds modules name = true ↔
      ∃ canonical, Mangled.canonical? name = some canonical ∧
        (Mangled.ofText canonical).Declares kinds modules := by
  rw [isDeclarationIn]
  cases hcanonical : Mangled.canonical? name with
  | none => simp
  | some canonical =>
      cases hsource : (Mangled.ofText canonical).kindSource? with
      | none => simp [Mangled.Declares, hsource]
      | some source => simp [Mangled.Declares, hsource, and_assoc, Option.any_eq_true]

/-- Kinds and modules are asked independently of each other. -/
theorem isDeclarationIn_eq_and (kinds modules : List Text) (name : Text) :
    isDeclarationIn kinds modules name =
      (isDeclarationIn kinds [] name &&
        (modules.isEmpty || (moduleOf? name).any modules.contains)) := by
  cases hcanonical : Mangled.canonical? name with
  | none => simp [isDeclarationIn, hcanonical]
  | some canonical =>
      rw [moduleOf?_of_canonical? hcanonical]
      cases hsource : (Mangled.ofText canonical).kindSource? with
      | none => simp [isDeclarationIn, hcanonical, hsource]
      | some source => simp [isDeclarationIn, hcanonical, hsource]

/-- A name that is reportable for some modules and not for others is no bracketed method, and its
module is not among the others. -/
theorem not_mem_modules_of_isReportable {kinds these others : List Text} {name : Text}
    (hthese : isReportable kinds these name = true)
    (hothers : isReportable kinds others name = false) :
    isMethodName name = false ∧ others ≠ [] ∧
      ∀ home, moduleOf? name = some home → home ∉ others := by
  rw [isReportable, Bool.and_eq_true] at hthese
  rw [isReportable, hthese.1, Bool.true_and, Bool.or_eq_false_iff] at hothers
  obtain ⟨hmethod, hothers⟩ := hothers
  have hdeclared := hthese.2
  rw [hmethod, Bool.false_or, isDeclarationIn_eq_and, Bool.and_eq_true] at hdeclared
  rw [isDeclarationIn_eq_and, hdeclared.1, Bool.true_and, Bool.or_eq_false_iff] at hothers
  refine ⟨hmethod, ?_, ?_⟩
  · simpa using hothers.1
  · intro home hhome
    simpa [hhome] using hothers.2

section Modules

variable {kinds kinds' modules modules' : List Text} {name : Text}

/-- What is declared of some kinds and modules is declared of more of them. No modules are more than
any others. -/
theorem Mangled.Declares.mono {m : Mangled} (h : m.Declares kinds modules) (hkinds : kinds ⊆ kinds')
    (hmodules : modules' = [] ∨ modules ≠ [] ∧ modules ⊆ modules') :
    m.Declares kinds' modules' := by
  obtain ⟨source, hsource, hne, hkind, hhome⟩ := h
  refine ⟨source, hsource, hne, hkinds hkind, ?_⟩
  rcases hmodules with hall | ⟨hsome, hmore⟩
  · exact .inl hall
  · obtain ⟨home, hmodule, hmem⟩ := hhome.resolve_left hsome
    exact .inr ⟨home, hmodule, hmore hmem⟩

theorem isReportable_mono (hkinds : kinds ⊆ kinds')
    (hmodules : modules' = [] ∨ modules ≠ [] ∧ modules ⊆ modules')
    (h : isReportable kinds modules name = true) : isReportable kinds' modules' name = true := by
  rw [isReportable, Bool.and_eq_true, Bool.or_eq_true] at h ⊢
  refine ⟨h.1, h.2.imp_right fun hdeclared => ?_⟩
  obtain ⟨canonical, hcanonical, hdeclares⟩ := isDeclarationIn_iff.mp hdeclared
  exact isDeclarationIn_iff.mpr ⟨canonical, hcanonical, hdeclares.mono hkinds hmodules⟩

theorem isReportable_of_isMethodName (h : isMethodName name = true) (kinds modules : List Text) :
    isReportable kinds modules name = !Noise.inName name := by
  rw [isReportable, h, Bool.true_or, Bool.and_true]

/-- Of the names without brackets given modules accept those that are accepted without them and
whose own module is one of them. -/
theorem isReportable_iff_of_ne_nil (hmethod : isMethodName name = false) (hne : modules ≠ []) :
    isReportable kinds modules name = true ↔
      isReportable kinds [] name = true ∧ ∃ home ∈ modules, moduleOf? name = some home := by
  have hhome : (modules.isEmpty || (moduleOf? name).any modules.contains) = true ↔
      ∃ home ∈ modules, moduleOf? name = some home := by
    rw [List.isEmpty_eq_false_iff.mpr hne, Bool.false_or, Option.any_eq_true]
    simp only [List.contains_eq_mem, decide_eq_true_eq, and_comm]
  rw [isReportable, isReportable, hmethod, Bool.false_or, Bool.false_or, isDeclarationIn_eq_and,
    ← Bool.and_assoc, Bool.and_eq_true, hhome]

/-- Given modules agree with the module of a name, and of a bracketed method nothing is asked. So
more kinds accept more names, more modules accept more names, and no modules accept the most. -/
theorem isReportable_iff_mem_modules (name : Text) :
    (isMethodName name = false → ∀ kinds modules, modules ≠ [] →
      (isReportable kinds modules name = true ↔
        isReportable kinds [] name = true ∧ ∃ home ∈ modules, moduleOf? name = some home)) ∧
    (isMethodName name = true → ∀ kinds modules kinds' modules',
      isReportable kinds modules name = isReportable kinds' modules' name) ∧
    (∀ kinds kinds' modules, kinds ⊆ kinds' →
      isReportable kinds modules name = true → isReportable kinds' modules name = true) ∧
    (∀ kinds modules modules', modules ≠ [] → modules ⊆ modules' →
      isReportable kinds modules name = true → isReportable kinds modules' name = true) ∧
    ∀ kinds modules, isReportable kinds modules name = true →
      isReportable kinds [] name = true := by
  refine ⟨?_, ?_, ?_, ?_, ?_⟩
  · intro hmethod kinds modules hne
    exact isReportable_iff_of_ne_nil hmethod hne
  · intro hmethod kinds modules kinds' modules'
    rw [isReportable_of_isMethodName hmethod, isReportable_of_isMethodName hmethod]
  · intro kinds kinds' modules hkinds
    apply isReportable_mono hkinds
    by_cases hnone : modules = []
    · exact .inl hnone
    · exact .inr ⟨hnone, List.Subset.refl modules⟩
  · intro kinds modules modules' hne hmore
    exact isReportable_mono (List.Subset.refl kinds) (.inr ⟨hne, hmore⟩)
  · intro kinds modules
    exact isReportable_mono (List.Subset.refl kinds) (.inl rfl)

end Modules

end LinkAudit
