import LinkAudit.Proofs.FileTree.Walk
import LinkAudit.Proofs.Source.Stem
import LinkAudit.Proofs.Table

/-!
Where the source of an object is found. The index has for a stem the first source file of the walk
with that stem, and a search has for a name the first file of the walk with that name. In a project
whose index was built from its tree, whatever is found for an object is therefore a file below the
root, with the extension of a source and one of the object's stems.
-/

namespace LinkAudit

/-- The index finds the first file with a stem. -/
theorem SourceIndex.getElem?_ofFiles (files : List Path) (stem : Text) :
    (ofFiles files)[stem]? = files.find? (·.stem == stem) := by
  rw [ofFiles, getElem?_foldl_insertIfNew]
  simp

theorem SourceIndex.mem_sourcesBelow_of_build {tree : FileTree} {withDependencies : Bool}
    {root : Option Path} {index : SourceIndex} {stem : Text} {path : Path}
    (h : build tree withDependencies root = .ok index) (hfound : index[stem]? = some path) :
    ∃ r, root = some r ∧ path ∈ sourcesBelow tree withDependencies r ∧ path.stem = stem := by
  unfold build at h
  split at h
  · cases h
    simp at hfound
  · rename_i r
    split at h
    · cases h
    · cases h
      simp at hfound
    · cases h
      rw [getElem?_ofFiles] at hfound
      exact ⟨r, rfl, List.mem_of_find?_eq_some hfound, by simpa using List.find?_some hfound⟩

/-- What is known of the files below a root is what a search finds. -/
theorem Catalogue.getElem?_below (tree : FileTree) (root : Path) (name : Text) :
    (below tree (some root))[name]? = SourceFinder.search tree name root := by
  rw [below, ofFiles, getElem?_foldl_insertIfNew, SourceFinder.search]
  simp

/-- What makes a path the source of an object: it is a file below the root, with the extension of a
source in any case, and with one of the object's stems. -/
structure IsSourceOf (tree : FileTree) (root : Option Path) (path : Path) (objectPath : Text) :
    Prop where
  below : ∃ r, root = some r ∧ tree.HasFileBelow r path
  isSource : path.extension.lower ∈ SourceIndex.extensions
  stem : path.stem ∈ ObjectFile.stemsOf objectPath

namespace Project

/-- Whether the index was built from the project's tree and nothing has been looked for yet. -/
structure IsFresh (p : Project) (withDependencies : Bool) : Prop where
  built : SourceIndex.build p.tree withDependencies p.root = .ok p.index
  unasked : p.known = ∅

variable {p : Project} {withDependencies : Bool} {o : ObjectFile} {name : Text} {path : Path}

/-- In a fresh project a file is found by name if a search finds it. -/
theorem IsFresh.search_of_file? (hp : p.IsFresh withDependencies)
    (h : p.file? name = some path) :
    ∃ root, p.root = some root ∧ SourceFinder.search p.tree name root = some path := by
  unfold file? at h
  split at h
  · cases h
  · rw [hp.unasked, Std.TreeMap.getElem?_emptyc, Option.getD_none, p.files_eq] at h
    cases hroot : p.root with
    | none => simp [hroot, Catalogue.below] at h
    | some root =>
        rw [hroot, Catalogue.getElem?_below] at h
        exact ⟨root, rfl, h⟩

theorem IsFresh.isSourceOf_of_indexed? (hp : p.IsFresh withDependencies)
    (h : p.indexed? o = some path) : IsSourceOf p.tree p.root path o.path := by
  obtain ⟨stem, hstem, hfound⟩ := List.exists_of_findSome?_eq_some h
  obtain ⟨root, hroot, hmem, rfl⟩ := SourceIndex.mem_sourcesBelow_of_build hp.built hfound
  obtain ⟨hbelow, hsource⟩ := List.mem_filter.mp hmem
  rw [SourceIndex.isSource, Bool.and_eq_true, List.contains_iff_mem] at hsource
  exact ⟨⟨root, hroot, FileTree.hasFileBelow_of_mem_filesBelow hbelow⟩, hsource.2, hstem⟩

/-- The extensions that are tried are those of sources. -/
theorem exists_extension_of_mem_probed {extension : Text} (h : extension ∈ probed) :
    ∃ letters, extension = '.' :: letters ∧ letters ≠ [] ∧ '.' ∉ letters ∧
      extension.lower ∈ SourceIndex.extensions := by
  rcases List.mem_pair.mp h with rfl | rfl
  · exact ⟨"swift".toList, rfl, by decide, by decide, by decide⟩
  · exact ⟨"m".toList, rfl, by decide, by decide, by decide⟩

theorem IsFresh.isSourceOf_of_file? (hp : p.IsFresh withDependencies)
    (hname : name ∈ sourceNames o) (h : p.file? name = some path) :
    IsSourceOf p.tree p.root path o.path := by
  obtain ⟨root, hroot, hsearch⟩ := hp.search_of_file? h
  have hbelow := FileTree.hasFileBelow_of_mem_filesBelow (List.mem_of_find?_eq_some hsearch)
  have hpath : path.name = name := by simpa using List.find?_some hsearch
  -- the name is a stem of the object with one of the extensions that are tried
  obtain ⟨stem, hstem, hnames⟩ := List.mem_flatMap.mp hname
  obtain ⟨extension, hextension, rfl⟩ := List.mem_map.mp hnames
  obtain ⟨letters, rfl, hletters, hdot, hsource⟩ := exists_extension_of_mem_probed hextension
  have hsplit := Path.splitExtension_append (ObjectFile.ne_nil_of_mem_stemsOf hstem) hletters hdot
  refine ⟨⟨root, hroot, hbelow⟩, ?_, ?_⟩
  · rw [Path.extension, hpath, hsplit]
    exact hsource
  · rw [Path.stem, hpath, hsplit]
    exact hstem

/-- Whatever is found as the source of an object in a fresh project is one. -/
theorem IsFresh.isSourceOf_of_objectSource? (hp : p.IsFresh withDependencies)
    (h : p.objectSource? o = some path) : IsSourceOf p.tree p.root path o.path := by
  rw [objectSource?, Option.orElse_eq_orElse, Option.orElse_eq_or, Option.or_eq_some_iff] at h
  rcases h with hindexed | ⟨-, hfile⟩
  · exact hp.isSourceOf_of_indexed? hindexed
  · obtain ⟨name, hname, hfile⟩ := List.exists_of_findSome?_eq_some hfile
    exact hp.isSourceOf_of_file? hname hfile

/-- The hint for an object has a source exactly where one is found, and then it is that one. -/
theorem path_of_hasSource (h : (p.hint (some o) none).hasSource = true) :
    ∃ path, (p.hint (some o) none).path = some path ∧ p.objectSource? o = some path := by
  cases hsource : p.objectSource? o with
  | none => simp [hint, hsource, besideHint] at h
  | some path => exact ⟨path, by simp [hint, hsource, sourceHint], rfl⟩

theorem IsFresh.isSourceOf_of_hasSource (hp : p.IsFresh withDependencies)
    (h : (p.hint (some o) none).hasSource = true) :
    ∃ path, (p.hint (some o) none).path = some path ∧ IsSourceOf p.tree p.root path o.path := by
  obtain ⟨path, hpath, hsource⟩ := path_of_hasSource h
  exact ⟨path, hpath, hp.isSourceOf_of_objectSource? hsource⟩

end Project

end LinkAudit
