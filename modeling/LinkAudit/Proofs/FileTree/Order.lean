import LinkAudit.Proofs.FileTree.Walk
import LinkAudit.Proofs.Order

/-!
The order of a walk. Files are compared by the names that lead to them: where two files part, the
one that lies in the directory itself comes before the one that lies deeper, and of two that lie
equally the one with the smaller name there. An orderly directory is walked in this order, so that
looking for a file with some property finds the first of all such files that the walk meets.
-/

namespace LinkAudit

namespace Directory

/-- The order in which files are met, each given by the names that lead to it. -/
inductive Precedes : List Text → List Text → Prop
  | own {name other : Text} (h : name < other) : Precedes [name] [other]
  | ownFirst {name folder next : Text} {names : List Text} :
      Precedes [name] (folder :: next :: names)
  | folders {folder other next next' : Text} {names names' : List Text} (h : folder < other) :
      Precedes (folder :: next :: names) (other :: next' :: names')
  | inside {folder : Text} {names names' : List Text} (h : Precedes names names') :
      Precedes (folder :: names) (folder :: names')

theorem Precedes.asymm {names names' : List Text} (h : Precedes names names') :
    ¬Precedes names' names := by
  induction h with
  | own h =>
      intro hback
      cases hback with
      | own hback => exact List.lt_asymm h hback
      | inside hback => cases hback
  | ownFirst =>
      intro hback
      cases hback with
      | inside hback => cases hback
  | folders h =>
      intro hback
      cases hback with
      | folders hback => exact List.lt_asymm h hback
      | inside hback => exact List.lt_irrefl _ h
  | inside h ih =>
      intro hback
      cases hback with
      | own hback => cases h
      | ownFirst => cases h
      | folders hback => exact List.lt_irrefl _ hback
      | inside hback => exact ih hback

variable {opens : List Text → Bool} {d : Directory} {names : List Text}

theorem exists_cons_of_mem_walk (h : names ∈ d.walk opens) :
    ∃ next rest, names = next :: rest := by
  obtain ⟨⟨content, hfile⟩, -⟩ := mem_walk_iff_hasFile.mp h
  exact List.exists_cons_of_ne_nil hfile.ne_nil

/-- An orderly directory is walked in this order. -/
theorem pairwise_precedes_walk (hd : d.IsOrderly) : (d.walk opens).Pairwise Precedes := by
  induction hd generalizing opens with
  | @mk files folders distinct named below ih =>
      obtain ⟨hfiles, hfolders, -⟩ := List.nodup_append.mp distinct
      rw [walk]
      split
      · rw [List.pairwise_append, List.pairwise_flatMap, walkFolders_eq_map]
        refine ⟨?_, ⟨?_, ?_⟩, ?_⟩
        · -- two files of the directory itself
          rw [List.pairwise_map]
          rw [← List.map_id (files.map (·.1))] at hfiles
          exact (pairwise_lt_mergeSort_le id hfiles).imp Precedes.own
        · -- two files below one subdirectory
          intro listed hlisted
          obtain ⟨folder, hfolder, rfl⟩ := List.mem_map.mp (List.mem_mergeSort.mp hlisted)
          rw [List.pairwise_map]
          exact (ih folder hfolder).imp Precedes.inside
        · -- two files below different subdirectories
          have hnames : ((folders.map fun folder => (folder.1, folder.2.walk fun names =>
              opens (folder.1 :: names))).map (·.1)).Nodup := by
            rwa [List.map_map]
          have hsorted := pairwise_lt_mergeSort_le
            (fun listed : Text × List (List Text) => listed.1) hnames
          refine hsorted.imp_of_mem ?_
          intro listed listed' hlisted hlisted' hlt x hx y hy
          obtain ⟨folder, -, rfl⟩ := List.mem_map.mp (List.mem_mergeSort.mp hlisted)
          obtain ⟨folder', -, rfl⟩ := List.mem_map.mp (List.mem_mergeSort.mp hlisted')
          obtain ⟨names, hmem, rfl⟩ := List.mem_map.mp hx
          obtain ⟨names', hmem', rfl⟩ := List.mem_map.mp hy
          obtain ⟨next, rest, rfl⟩ := exists_cons_of_mem_walk hmem
          obtain ⟨next', rest', rfl⟩ := exists_cons_of_mem_walk hmem'
          exact .folders hlt
        · -- a file of the directory itself and one below a subdirectory
          intro x hx y hy
          obtain ⟨name, -, rfl⟩ := List.mem_map.mp hx
          obtain ⟨listed, hlisted, hy⟩ := List.mem_flatMap.mp hy
          obtain ⟨folder, -, rfl⟩ := List.mem_map.mp (List.mem_mergeSort.mp hlisted)
          obtain ⟨names, hmem, rfl⟩ := List.mem_map.mp hy
          obtain ⟨next, rest, rfl⟩ := exists_cons_of_mem_walk hmem
          exact .ownFirst
      · exact .nil

/-- The names of the file that comes before all others of a selection. -/
structure IsFirst (selects : List Text → Prop) (names : List Text) : Prop where
  selected : selects names
  first : ∀ other, selects other → other = names ∨ Precedes names other

/-- Looking for a property in a walk finds the first file with it. -/
theorem find?_walk_eq_some_iff (hd : d.IsOrderly) {p : List Text → Bool} :
    (d.walk opens).find? p = some names ↔
      IsFirst (fun names => names ∈ d.walk opens ∧ p names = true) names := by
  rw [find?_eq_some_iff_of_pairwise (fun _ _ => Precedes.asymm) (pairwise_precedes_walk hd)]
  constructor
  · rintro ⟨hnames, hp, hfirst⟩
    exact ⟨⟨hnames, hp⟩, fun other hother => hfirst other hother.1 hother.2⟩
  · rintro ⟨⟨hnames, hp⟩, hfirst⟩
    exact ⟨hnames, hp, fun other hother hpother => hfirst other ⟨hother, hpother⟩⟩

end Directory

namespace FileTree

variable {t : FileTree} {enters : Text → Bool} {root path : Path} {location : List Text}
  {d : Directory}

theorem filesBelow_eq_map (hroot : t.locate root = .ok (.folder location d)) :
    t.filesBelow enters root = (d.walk (t.opens enters root location)).map
      fun names => { root with parts := root.parts ++ names } := by
  rw [filesBelow, hroot]

/-- Looking for a property among the files below a root finds the first of those with the property
that the walk lists. -/
theorem find?_filesBelow_eq_some_iff (ht : t.root.IsOrderly)
    (hroot : t.locate root = .ok (.folder location d)) {p : Path → Bool} :
    (t.filesBelow enters root).find? p = some path ↔
      ∃ names, Directory.IsFirst (fun names => names ∈ d.walk (t.opens enters root location) ∧
          p { root with parts := root.parts ++ names } = true) names ∧
        path = { root with parts := root.parts ++ names } := by
  have hd := isOrderly_of_locate ht hroot
  rw [filesBelow_eq_map hroot, List.find?_map, Option.map_eq_some_iff]
  simp only [Directory.find?_walk_eq_some_iff hd, Function.comp_apply, eq_comm (b := path)]

end FileTree

end LinkAudit
