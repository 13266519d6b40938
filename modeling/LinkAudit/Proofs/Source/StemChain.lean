import LinkAudit.Proofs.Path
import LinkAudit.Proofs.Source.Stem
import Mathlib.Data.List.Chain

/-!
The chain of an object's stems. Taking the last extension off a name leaves a shorter name that
begins it, or the name itself, so that extensions can be taken off one at a time only as often as
there are any, and no name comes a second time. A dot alone is the one stem of which nothing is left
when it is read as a path. Main statement: taking extensions off the last component of a path ends
with the stems of the path, and they are the only list that goes from the component without its last
extension down to a stem without any, one extension at a time.
-/

namespace LinkAudit

namespace Path

/-- What is left of a name without its last extension. An extension is what stands from the last dot
on, unless that dot comes first or last, and a name without one stays as it is. Only a dot alone,
which has no component when it is read as a path, leaves nothing. -/
inductive IsStemOf : Text → Text → Prop where
  | shortened {stem extension : Text} (hstem : stem ≠ []) (hne : extension ≠ [])
      (hdot : '.' ∉ extension) : IsStemOf stem (stem ++ '.' :: extension)
  | whole {name : Text} (hhere : name ≠ ['.'])
      (hsides : ∀ before after, name = before ++ '.' :: after → '.' ∉ after →
        before = [] ∨ after = []) : IsStemOf name name
  | here : IsStemOf [] ['.']

variable {name stem path : Text}

theorem isStemOf_iff_of_ne_here (h : name ≠ ['.']) :
    IsStemOf stem name ↔ stem = (splitExtension name).1 := by
  constructor
  · intro hstem
    cases hstem with
    | shortened hstem hne hdot => rw [splitExtension_append hstem hne hdot]
    | whole _ hsides =>
        rcases fst_splitExtension_eq_self_or name with
          hwhole | ⟨before, after, hbefore, hafter, hdot, hname⟩
        · exact hwhole.symm
        · exact absurd (hsides before after hname hdot) (not_or.mpr ⟨hbefore, hafter⟩)
    | here => exact absurd rfl h
  · rintro rfl
    rcases fst_splitExtension_eq_self_or name with
      hwhole | ⟨before, after, hbefore, hafter, hdot, rfl⟩
    · rw [hwhole]
      refine .whole h fun before after hname hdot => ?_
      by_contra hsides
      obtain ⟨hbefore, hafter⟩ := not_or.mp hsides
      rw [hname, splitExtension_append hbefore hafter hdot] at hwhole
      simp at hwhole
    · rw [splitExtension_append hbefore hafter hdot]
      exact .shortened hbefore hafter hdot

theorem isStemOf_here_iff : IsStemOf stem ['.'] ↔ stem = [] := by
  constructor
  · intro h
    generalize hname : (['.'] : Text) = name at h
    cases h with
    | shortened hstem hne => simp [List.cons_eq_append_iff, hstem, hne] at hname
    | whole hhere => exact absurd hname.symm hhere
    | here => rfl
  · rintro rfl
    exact .here

theorem name_ofText_of_isComponent (h : IsComponent name) : (ofText name).name = name := by
  rw [ofText_of_isComponent h]
  rfl

/-- The stem of a name is that of the path which the name alone is read as. -/
theorem isStemOf_iff_eq_stem (hne : name ≠ []) (hslash : '/' ∉ name) :
    IsStemOf stem name ↔ stem = (ofText name).stem := by
  by_cases hhere : name = ['.']
  · rw [hhere]
    exact isStemOf_here_iff
  · rw [isStemOf_iff_of_ne_here hhere, Path.stem, name_ofText_of_isComponent ⟨hne, hslash, hhere⟩]

theorem isComponent_name_ofText (h : (ofText path).parts ≠ []) :
    IsComponent (ofText path).name := by
  rw [Path.name, List.getLast?_eq_some_getLast h]
  exact isComponent_of_mem_parts_ofText (List.getLast_mem h)

theorem isStemOf_stem_ofText (h : (ofText path).parts ≠ []) :
    IsStemOf (ofText path).stem (ofText path).name :=
  (isStemOf_iff_of_ne_here (isComponent_name_ofText h).ne_here).mpr rfl

theorem stem_ofText_ne_nil (h : (ofText path).parts ≠ []) : (ofText path).stem ≠ [] :=
  fst_splitExtension_ne_nil (isComponent_name_ofText h).ne_nil

theorem slash_not_mem_stem_ofText (h : (ofText path).parts ≠ []) : '/' ∉ (ofText path).stem := by
  have hbegins := fst_splitExtension_prefix (ofText path).name
  exact fun hslash => (isComponent_name_ofText h).slash_not_mem (hbegins.subset hslash)

theorem stem_ofText_of_eq_nil (h : (ofText path).parts = []) : (ofText path).stem = [] := by
  rw [Path.stem, Path.name, h]
  rfl

/-- The last component of a path has the stem of the path. -/
theorem stem_ofText_name (path : Text) : (ofText (ofText path).name).stem = (ofText path).stem := by
  by_cases hparts : (ofText path).parts = []
  · rw [Path.name, hparts, stem_ofText_of_eq_nil hparts]
    rfl
  · rw [Path.stem, name_ofText_of_isComponent (isComponent_name_ofText hparts), Path.stem]

end Path

namespace ObjectFile

open LinkAudit.Path (IsStemOf)

/-- How extensions are taken off one at a time, from the stems found so far and a name to the list
with which this ends. Where nothing is left or a name comes again, nothing is added any more, and
where a name stays as it is, it is the last one. -/
inductive Collects : List Text → Text → List Text → Prop where
  | nothing {found : List Text} : Collects found [] found
  | again {found : List Text} {name : Text} (h : name ∈ found) : Collects found name found
  | unchanged {found : List Text} {name : Text} (hne : name ≠ []) (hnew : name ∉ found)
      (h : (Path.ofText name).stem = name) : Collects found name (found ++ [name])
  | shorter {found stems : List Text} {name : Text} (hne : name ≠ []) (hnew : name ∉ found)
      (h : (Path.ofText name).stem ≠ name)
      (hrest : Collects (found ++ [name]) (Path.ofText name).stem stems) :
      Collects found name stems

/-- The stem of a name that has an extension: a shorter name that the name begins with. -/
structure Shortens (longer shorter : Text) : Prop where
  isStemOf : IsStemOf shorter longer
  begins : shorter <+: longer
  length_lt : shorter.length < longer.length

/-- The full chain of stems of a path, from its last component without the last extension on. From
the last stem no extension can be taken off, or nothing would be left. -/
structure IsStemChain (path : Text) (stems : List Text) : Prop where
  nodup : stems.Nodup
  ne_nil : ∀ stem ∈ stems, stem ≠ []
  first : ∀ stem ∈ stems.head?, IsStemOf stem (Path.ofText path).name
  later : stems.IsChain Shortens
  last : ∀ stem ∈ stems.getLast?, IsStemOf stem stem ∨ IsStemOf [] stem
  eq_nil_iff : stems = [] ↔ (Path.ofText path).parts = []

variable {name path : Text} {stems found : List Text}

/-- As long as all that was found is longer than the name, no name comes again. -/
theorem collects_stemsFrom (hne : name ≠ []) (hslash : '/' ∉ name)
    (hfound : ∀ stem ∈ found, name.length < stem.length) :
    Collects found name (found ++ stemsFrom name) := by
  induction name using stemsFrom_induction generalizing found with
  | whole name hwhole =>
      have hnew : name ∉ found := fun hmem => (hfound name hmem).false
      rw [stemsFrom_of_eq hwhole]
      by_cases hhere : name = ['.']
      · subst hhere
        exact .shorter hne hnew (by decide) .nothing
      · have hstem := (Path.isStemOf_iff_of_ne_here hhere).mpr hwhole.symm
        exact .unchanged hne hnew ((Path.isStemOf_iff_eq_stem hne hslash).mp hstem).symm
  | extended rest extension hrest hextension hdot ih =>
      have hnew : rest ++ '.' :: extension ∉ found := fun hmem => (hfound _ hmem).false
      have hstem : (Path.ofText (rest ++ '.' :: extension)).stem = rest :=
        ((Path.isStemOf_iff_eq_stem hne hslash).mp (.shortened hrest hextension hdot)).symm
      have hrestslash : '/' ∉ rest := fun h => hslash (List.mem_append_left _ h)
      have hshorter : rest.length < (rest ++ '.' :: extension).length := by simp
      -- the name is found now, and it is longer than what is left of it
      rw [stemsFrom_append hrest hextension hdot, List.append_cons found]
      refine .shorter hne hnew (by simp [hstem]) ?_
      rw [hstem]
      refine ih hrest hrestslash fun stem hmem => ?_
      rcases List.mem_append.mp hmem with hmem | hmem
      · exact hshorter.trans (hfound stem hmem)
      · rwa [List.mem_singleton.mp hmem]

theorem head?_stemsFrom (name : Text) : (stemsFrom name).head? = some name := by
  rw [stemsFrom]
  rfl

theorem stemsFrom_ne_nil (name : Text) : stemsFrom name ≠ [] := by
  rw [stemsFrom]
  exact List.cons_ne_nil _ _

theorem isChain_stemsFrom (name : Text) : (stemsFrom name).IsChain Shortens := by
  induction name using stemsFrom_induction with
  | whole name hwhole =>
      rw [stemsFrom_of_eq hwhole]
      exact .singleton name
  | extended rest extension hrest hne hdot ih =>
      have hshortens : Shortens (rest ++ '.' :: extension) rest :=
        ⟨.shortened hrest hne hdot, List.prefix_append rest _, by simp⟩
      rw [stemsFrom_append hrest hne hdot, List.isChain_cons, head?_stemsFrom]
      refine ⟨fun shorter hmem => ?_, ih⟩
      rwa [← Option.some.inj hmem]

/-- A list in which each name is shorter than the one before has no name twice. -/
theorem nodup_of_isChain (h : stems.IsChain Shortens) : stems.Nodup := by
  have hlength : stems.IsChain (fun longer shorter => shorter.length < longer.length) :=
    h.imp fun _ _ hshortens => hshortens.length_lt
  have htrans : IsTrans Text fun longer shorter => shorter.length < longer.length :=
    ⟨fun _ _ _ h h' => h'.trans h⟩
  refine (List.isChain_iff_pairwise.mp hlength).imp ?_
  rintro longer _ h rfl
  exact h.false

/-- There is no extension to take off if the name stays as it is, or if nothing is left of it. -/
theorem isStemOf_self_or_nil_iff (hne : name ≠ []) :
    IsStemOf name name ∨ IsStemOf [] name ↔ (Path.splitExtension name).1 = name := by
  by_cases hhere : name = ['.']
  · subst hhere
    exact iff_of_true (.inr .here) rfl
  · have hsome : [] ≠ (Path.splitExtension name).1 := (Path.fst_splitExtension_ne_nil hne).symm
    rw [Path.isStemOf_iff_of_ne_here hhere, Path.isStemOf_iff_of_ne_here hhere, or_iff_left hsome,
      eq_comm]

theorem isStemOf_of_mem_getLast?_stemsFrom {stem : Text} (hname : name ≠ [])
    (h : stem ∈ (stemsFrom name).getLast?) : IsStemOf stem stem ∨ IsStemOf [] stem := by
  induction name using stemsFrom_induction with
  | whole name hwhole =>
      obtain rfl : name = stem := by simpa [stemsFrom_of_eq hwhole] using h
      exact (isStemOf_self_or_nil_iff hname).mpr hwhole
  | extended rest extension hrest hne hdot ih =>
      rw [stemsFrom_append hrest hne hdot,
        List.getLast?_cons_of_ne_nil (stemsFrom_ne_nil rest)] at h
      exact ih hrest h

/-- Where a chain begins decides how it goes on and where it ends. -/
theorem eq_stemsFrom_of_isChain {rest : List Text} (hne : ∀ stem ∈ name :: rest, stem ≠ [])
    (hlater : (name :: rest).IsChain Shortens)
    (hlast : ∀ stem ∈ (name :: rest).getLast?, IsStemOf stem stem ∨ IsStemOf [] stem) :
    name :: rest = stemsFrom name := by
  induction rest generalizing name with
  | nil =>
      have hname := hne name List.mem_cons_self
      rw [stemsFrom_of_eq ((isStemOf_self_or_nil_iff hname).mp (hlast name rfl))]
  | cons next rest ih =>
      obtain ⟨-, hrest⟩ := List.forall_mem_cons.mp hne
      obtain ⟨hnext, hlater⟩ := List.isChain_cons_cons.mp hlater
      rw [ih hrest hlater hlast]
      cases hnext.isStemOf with
      | shortened hstem hextension hdot => rw [stemsFrom_append hstem hextension hdot]
      | whole => exact absurd hnext.length_lt (lt_irrefl _)
      | here => exact absurd rfl (hrest [] List.mem_cons_self)

theorem stemsOf_of_eq_nil (h : (Path.ofText path).parts = []) : stemsOf path = [] := by
  rw [stemsOf, Path.stem_ofText_of_eq_nil h]
  rfl

theorem stemsOf_of_ne_nil (h : (Path.ofText path).parts ≠ []) :
    stemsOf path = stemsFrom (Path.ofText path).stem := by
  rw [stemsOf, if_neg (by simpa using Path.stem_ofText_ne_nil h)]

/-- Taking extensions off the last component of a path ends with the stems of the path. -/
theorem collects_stemsOf (path : Text) :
    Collects [] (Path.ofText (Path.ofText path).name).stem (stemsOf path) := by
  rw [Path.stem_ofText_name]
  by_cases hparts : (Path.ofText path).parts = []
  · rw [stemsOf_of_eq_nil hparts, Path.stem_ofText_of_eq_nil hparts]
    exact .nothing
  · rw [stemsOf_of_ne_nil hparts]
    exact collects_stemsFrom (Path.stem_ofText_ne_nil hparts)
      (Path.slash_not_mem_stem_ofText hparts) (by simp)

theorem isStemChain_stemsOf (path : Text) : IsStemChain path (stemsOf path) := by
  by_cases hparts : (Path.ofText path).parts = []
  · rw [stemsOf_of_eq_nil hparts]
    exact ⟨.nil, by simp, by simp, .nil, by simp, by simp [hparts]⟩
  · have hstem := Path.stem_ofText_ne_nil hparts
    have hchain := isChain_stemsFrom (Path.ofText path).stem
    rw [stemsOf_of_ne_nil hparts]
    exact {
      nodup := nodup_of_isChain hchain
      ne_nil := fun _ => ne_nil_of_mem_stemsFrom hstem
      first := by
        rw [head?_stemsFrom]
        rintro _ ⟨⟩
        exact Path.isStemOf_stem_ofText hparts
      later := hchain
      last := fun _ => isStemOf_of_mem_getLast?_stemsFrom hstem
      eq_nil_iff := iff_of_false (stemsFrom_ne_nil _) hparts }

theorem IsStemChain.eq_stemsOf (h : IsStemChain path stems) : stems = stemsOf path := by
  cases stems with
  | nil => exact (stemsOf_of_eq_nil (h.eq_nil_iff.mp rfl)).symm
  | cons first rest =>
      have hparts : (Path.ofText path).parts ≠ [] := fun hparts =>
        List.cons_ne_nil first rest (h.eq_nil_iff.mpr hparts)
      have hhere := (Path.isComponent_name_ofText hparts).ne_here
      have hfirst : first = (Path.ofText path).stem :=
        (Path.isStemOf_iff_of_ne_here hhere).mp (h.first first rfl)
      rw [stemsOf_of_ne_nil hparts, ← hfirst]
      exact eq_stemsFrom_of_isChain h.ne_nil h.later h.last

/-- Taking extensions off the last component of a path, one at a time, ends with the stems of the
path, and these are its only full chain of stems. -/
theorem collects_and_isStemChain_iff (path : Text) :
    Collects [] (Path.ofText (Path.ofText path).name).stem (stemsOf path) ∧
      ∀ stems, IsStemChain path stems ↔ stems = stemsOf path := by
  refine ⟨collects_stemsOf path, fun stems => ⟨fun h => h.eq_stemsOf, ?_⟩⟩
  rintro rfl
  exact isStemChain_stemsOf path

/-- Of two dots in front, the second one makes an extension, and the dot that is left is a stem. -/
example : stemsOf "/b/..o".toList = [['.']] := by decide +kernel

end ObjectFile

end LinkAudit
