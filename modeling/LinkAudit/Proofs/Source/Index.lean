import LinkAudit.Proofs.FileTree.Order
import LinkAudit.Proofs.Path
import LinkAudit.Proofs.Source.Attribution

/-!
What the index of sources holds. It has the stems of all eligible files, those that are sources of
the project by their names and by the directories they lie in, and for each stem the first eligible
file in the order of the walk. Only files that a walk cannot reach are left out, although they may be
eligible: those below a directory that cannot be listed or whose path is too long to be followed.
-/

namespace LinkAudit.SourceIndex

/-- Whether names lead from a directory to a source of the project. -/
structure IsEligible (withDependencies : Bool) (d : Directory) (names : List Text) : Prop where
  isFile : ∃ content, d.HasFile names content
  shown : ∀ name ∈ names, ¬['.'] <+: name
  unskipped : ∀ folder ∈ names.dropLast, folder ∉ skippedDirectories
  own : withDependencies = true ∨ dependencyDirectory ∉ names.dropLast
  isSource : ∃ name ∈ names.getLast?, (Path.splitExtension name).2.lower ∈ extensions

/-- Whether the index has the stems of a selection of files, each with the first of its files. The
files are given by the names that lead to them from the root. -/
structure IsIndexOf (tree : FileTree) (root : Path) (selects : List Text → Prop)
    (index : SourceIndex) : Prop where
  mem_iff : ∀ stem, stem ∈ index ↔
    ∃ names, selects names ∧ Path.stem { root with parts := root.parts ++ names } = stem
  getElem?_eq_some_iff : ∀ stem path, index[stem]? = some path ↔
    ∃ names, Directory.IsFirst (fun names => selects names ∧
        Path.stem { root with parts := root.parts ++ names } = stem) names ∧
      path = { root with parts := root.parts ++ names }
  below : ∀ stem path, index[stem]? = some path → tree.HasFileBelow root path ∧ path.stem = stem

variable {tree : FileTree} {withDependencies : Bool} {root path : Path} {location : List Text}
  {d : Directory} {names : List Text} {stem name : Text}

theorem isHidden_eq_false_iff : isHidden name = false ↔ ¬['.'] <+: name := by
  rw [← List.isPrefixOf_iff_prefix, isHidden, Bool.not_eq_true]

theorem enters_iff :
    enters withDependencies name = true ↔
      ¬['.'] <+: name ∧ name ∉ skippedDirectories ∧
        (withDependencies = true ∨ name ≠ dependencyDirectory) := by
  rw [← isHidden_eq_false_iff]
  simp [enters, and_assoc]

theorem isSource_iff (h : names ≠ []) :
    isSource { root with parts := root.parts ++ names } = true ↔
      ¬['.'] <+: names.getLast h ∧
        (Path.splitExtension (names.getLast h)).2.lower ∈ extensions := by
  rw [isSource, Path.extension, Path.name_extended h, Bool.and_eq_true, Bool.not_eq_true',
    isHidden_eq_false_iff, List.contains_iff_mem]

/-- The sources that the walk lists are the eligible files in reach. -/
theorem mem_walk_and_isSource_iff :
    names ∈ d.walk (tree.opens (enters withDependencies) root location) ∧
        isSource { root with parts := root.parts ++ names } = true ↔
      IsEligible withDependencies d names ∧ tree.IsInReach root location names := by
  rw [Directory.mem_walk_iff_hasFile, FileTree.forall_opens_iff]
  constructor
  · rintro ⟨⟨⟨content, hfile⟩, hentered, hreach⟩, hsource⟩
    obtain ⟨hshown, hextension⟩ := (isSource_iff hfile.ne_nil).mp hsource
    have hfolders := fun folder hfolder => enters_iff.mp (hentered folder hfolder)
    refine ⟨⟨⟨content, hfile⟩, ?_, fun folder hfolder => (hfolders folder hfolder).2.1, ?_, ?_⟩,
      hreach⟩
    · rw [← List.dropLast_append_getLast hfile.ne_nil]
      simp only [List.mem_append, List.mem_singleton]
      rintro name (hname | rfl)
      · exact (hfolders name hname).1
      · exact hshown
    · rw [Classical.or_iff_not_imp_right, Classical.not_not]
      intro hdependency
      exact (hfolders _ hdependency).2.2.resolve_right fun hne => hne rfl
    · exact ⟨_, List.getLast?_eq_some_getLast hfile.ne_nil, hextension⟩
  · rintro ⟨⟨⟨content, hfile⟩, hshown, hunskipped, hown, name, hname, hextension⟩, hreach⟩
    rw [List.getLast?_eq_some_getLast hfile.ne_nil, Option.mem_some_iff] at hname
    subst hname
    refine ⟨⟨⟨content, hfile⟩, fun folder hfolder => ?_, hreach⟩, ?_⟩
    · have hne : withDependencies = true ∨ folder ≠ dependencyDirectory :=
        hown.imp_right fun habsent heq => habsent (heq ▸ hfolder)
      exact enters_iff.mpr
        ⟨hshown folder (List.dropLast_subset names hfolder), hunskipped folder hfolder, hne⟩
    · exact (isSource_iff hfile.ne_nil).mpr ⟨hshown _ (List.getLast_mem _), hextension⟩

theorem getElem?_build (withDependencies : Bool)
    (hroot : tree.locate root = .ok (.folder location d)) :
    ∃ index, build tree withDependencies (some root) = .ok index ∧
      ∀ stem : Text, index[stem]? = (tree.filesBelow (enters withDependencies) root).find?
        fun path => isSource path && path.stem == stem := by
  refine ⟨ofFiles (sourcesBelow tree withDependencies root), ?_, fun stem => ?_⟩
  · rw [build, FileTree.directory?, hroot]
  · rw [getElem?_ofFiles, sourcesBelow, List.find?_filter]
    simp only [Bool.decide_and, Bool.decide_eq_true]

/-- The index of the sources below a directory has the stems of the eligible files in reach, each
with the first of its files. -/
theorem exists_build_eq_ok_and_isIndexOf (withDependencies : Bool)
    (htree : tree.root.IsOrderly)
    (hroot : tree.locate root = .ok (.folder location d)) :
    ∃ index, build tree withDependencies (some root) = .ok index ∧
      IsIndexOf tree root
        (fun names => IsEligible withDependencies d names ∧ tree.IsInReach root location names)
          index := by
  obtain ⟨index, hbuild, hindex⟩ := getElem?_build withDependencies hroot
  have hfound (stem : Text) (path : Path) : index[stem]? = some path ↔
      ∃ names, Directory.IsFirst (fun names =>
          (IsEligible withDependencies d names ∧ tree.IsInReach root location names) ∧
            Path.stem { root with parts := root.parts ++ names } = stem) names ∧
        path = { root with parts := root.parts ++ names } := by
    rw [hindex, FileTree.find?_filesBelow_eq_some_iff htree hroot]
    simp only [Bool.and_eq_true, beq_iff_eq, ← and_assoc, mem_walk_and_isSource_iff]
  refine ⟨index, hbuild, ⟨fun stem => ?_, hfound, fun stem path h => ?_⟩⟩
  · rw [Std.TreeMap.mem_iff_isSome_getElem?, hindex, List.find?_isSome,
      FileTree.filesBelow_eq_map hroot]
    simp only [List.mem_map, exists_exists_and_eq_and, Bool.and_eq_true, beq_iff_eq]
    simp only [← and_assoc, mem_walk_and_isSource_iff]
  · obtain ⟨names, hfirst, rfl⟩ := (hfound stem path).mp h
    obtain ⟨content, hfile⟩ := hfirst.selected.1.1.isFile
    exact ⟨⟨location, d, names, content, hroot, hfile, rfl⟩, hfirst.selected.2⟩

/-- Of three sources with one stem, the one in the root's own directory that comes first is in the
index. -/
theorem getElem?_build_ofOneStem :
    let d : Directory := .mk [("Cell.mm".toList, []), ("Cell.M".toList, [])]
      [("App".toList, .mk [("Cell.swift".toList, [])] [])]
    let tree : FileTree := { root := d, current := [] }
    let root := Path.ofText ['.']
    tree.root.IsOrderly ∧ tree.locate root = .ok (.folder [] d) ∧
      ∃ index, build tree false (some root) = .ok index ∧
        index["Cell".toList]? = some (Path.ofText "Cell.M".toList) := by
  intro d tree root
  have htree : tree.root.IsOrderly := by
    refine .mk (by decide) (by decide) ?_
    rw [List.forall_mem_singleton]
    exact .mk (by decide) (by decide) (by simp)
  have hroot : tree.locate root = .ok (.folder [] d) := rfl
  have heligible : IsEligible false d ["Cell.M".toList] :=
    ⟨⟨[], .own (by decide)⟩, by decide, by decide, .inr (by decide), _, rfl, by decide⟩
  obtain ⟨index, hbuild, hindex⟩ := exists_build_eq_ok_and_isIndexOf false htree hroot
  refine ⟨htree, hroot, index, hbuild, (hindex.getElem?_eq_some_iff _ _).mpr ⟨_, ⟨?_, ?_⟩, rfl⟩⟩
  · exact ⟨⟨heligible, Nat.zero_le _, fun _ _ => List.not_mem_nil⟩, by decide⟩
  · -- the other files are the one beside it with a greater name and the one in the subdirectory
    rintro other ⟨⟨⟨⟨content, hfile⟩, -⟩, -⟩, -⟩
    cases hfile with
    | own hfile =>
        rcases List.mem_pair.mp hfile with hmm | hM
        · cases hmm
          exact .inr (.own (by decide))
        · cases hM
          exact .inl rfl
    | inFolder hfolder hfile =>
        obtain ⟨next, rest, rfl⟩ := List.exists_cons_of_ne_nil hfile.ne_nil
        exact .inr .ownFirst

/-- An eligible file is missing from the index if the path of its directory, spelled from the root
as the root is given, is too long to be followed. -/
theorem not_isIndexOf_roundabout :
    let d : Directory := .mk [] [("Sources".toList, .mk [("A.swift".toList, [])] [])]
    let tree : FileTree := { root := .mk [] [(['p'], d)], current := [] }
    let root : Path := ⟨.here, (List.replicate 818 [['p'], ['.', '.']]).flatten ++ [['p']]⟩
    tree.root.IsOrderly ∧ tree.locate root = .ok (.folder [['p']] d) ∧
      ¬∃ index, build tree false (some root) = .ok index ∧
        IsIndexOf tree root (IsEligible false d) index := by
  intro d tree root
  have hd : d.IsOrderly :=
    .singleton (by decide) (by decide) (.mk (by decide) (by decide) (by simp))
  have htree : tree.root.IsOrderly := .singleton (by decide) (by decide) hd
  have hroot : tree.locate root = .ok (.folder [['p']] d) := by
    have hlength : ¬Text.Utf8.size root.toText > FileTree.pathLimit := by decide +kernel
    rw [FileTree.locate, if_neg hlength]
    exact FileTree.descend_rounds (by decide) (by decide) rfl 818
  have heligible : IsEligible false d ["Sources".toList, "A.swift".toList] :=
    ⟨⟨[], .inFolder List.mem_cons_self (.own List.mem_cons_self)⟩, by decide, by decide,
      .inr (by decide), _, rfl, by decide⟩
  -- the root leaves four bytes, and the subdirectory takes eight
  have hfar : tree.opens (enters false) root [['p']] ["Sources".toList] = false := by
    have hroom : FileTree.roomAfter root = 4 := by decide +kernel
    have hsize : FileTree.spelledSize ["Sources".toList] = 8 := by decide
    rw [FileTree.opens, hroom, hsize]
    simp
  have hbelow : tree.filesBelow (enters false) root = [] := by
    rw [FileTree.filesBelow_eq_map hroot, List.map_eq_nil_iff, List.eq_nil_iff_forall_not_mem]
    intro names hnames
    obtain ⟨-, ⟨_, _, -, hfile⟩ | ⟨_, _, _, -, hfolder, hrest⟩⟩ := Directory.mem_walk.mp hnames
    · cases hfile
    · cases List.mem_singleton.mp hfolder
      exact absurd (Directory.mem_walk.mp hrest).1 (by rw [hfar]; exact Bool.noConfusion)
  refine ⟨htree, hroot, ?_⟩
  rintro ⟨index, hbuild, hindex⟩
  have hstem : Path.stem { root with parts := root.parts ++ ["Sources".toList, "A.swift".toList] } =
      "A".toList := by
    rw [Path.stem, Path.name_extended (by decide)]
    decide
  have hmem := (hindex.mem_iff _).mpr ⟨_, heligible, hstem⟩
  obtain ⟨_, hbuild', hfind⟩ := getElem?_build false hroot
  cases hbuild.symm.trans hbuild'
  rw [Std.TreeMap.mem_iff_isSome_getElem?, hfind, hbelow] at hmem
  cases hmem

end LinkAudit.SourceIndex
