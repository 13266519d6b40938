import LinkAudit.FileTree
import Mathlib.Data.List.Basic

/-!
Following names. Each kind of name takes one step, and names that come after others are followed
from where the others lead. The files of a directory are those that names lead to; in an orderly
directory, where no name stands for two things, following the names leads to the file.
-/

namespace LinkAudit

namespace Directory

/-- Whether the names lead from the directory to a file with the content. -/
inductive HasFile : Directory → List Text → List UInt8 → Prop
  | own {d : Directory} {name : Text} {content : List UInt8} (h : (name, content) ∈ d.files) :
      HasFile d [name] content
  | inFolder {d folder : Directory} {name : Text} {names : List Text} {content : List UInt8}
      (h : (name, folder) ∈ d.folders) (hfile : HasFile folder names content) :
      HasFile d (name :: names) content

/-- Whether every name stands for one thing in the directory and below it, and can be followed. -/
inductive IsOrderly : Directory → Prop
  | mk {files : List (Text × List UInt8)} {folders : List (Text × Directory)}
      (distinct : (files.map (·.1) ++ folders.map (·.1)).Nodup)
      (named : ∀ name ∈ files.map (·.1) ++ folders.map (·.1),
        name ≠ ['.', '.'] ∧ Text.Utf8.size name ≤ FileTree.nameLimit)
      (below : ∀ folder ∈ folders, folder.2.IsOrderly) : IsOrderly (.mk files folders)

variable {d folder : Directory} {name : Text} {names : List Text} {content : List UInt8}

theorem HasFile.ne_nil (h : d.HasFile names content) : names ≠ [] := by
  cases h with
  | own hfile => simp
  | inFolder hfolder hfile => simp

theorem lookup_eq_some_of_mem {α : Type} {entries : List (Text × α)}
    (h : (entries.map (·.1)).Nodup) {a : α} (ha : (name, a) ∈ entries) :
    entries.lookup name = some a := by
  induction entries with
  | nil => simp at ha
  | cons first rest ih =>
      obtain ⟨key, value⟩ := first
      rw [List.map_cons, List.nodup_cons] at h
      rcases List.mem_cons.mp ha with hfirst | hrest
      · cases hfirst
        simp
      · have hne : name ≠ key := by
          rintro rfl
          exact h.1 (List.mem_map.mpr ⟨_, hrest, rfl⟩)
        simp [List.lookup_cons, beq_eq_false_iff_ne.mpr hne, ih h.2 hrest]

namespace IsOrderly

/-- A directory that holds nothing but an orderly subdirectory. -/
theorem singleton (hname : name ≠ ['.', '.']) (hsize : Text.Utf8.size name ≤ FileTree.nameLimit)
    (hfolder : folder.IsOrderly) : (Directory.mk [] [(name, folder)]).IsOrderly := by
  refine .mk (by simp) (by simpa using ⟨hname, hsize⟩) ?_
  rwa [List.forall_mem_singleton]

theorem isOrderly_folder (hd : d.IsOrderly) (h : (name, folder) ∈ d.folders) :
    folder.IsOrderly := by
  cases hd with
  | mk distinct named below => exact below _ h

theorem folder?_eq_some (hd : d.IsOrderly) (h : (name, folder) ∈ d.folders) :
    d.folder? name = some folder := by
  cases hd with
  | mk distinct named below => exact lookup_eq_some_of_mem (List.nodup_append.mp distinct).2.1 h

theorem file?_eq_some (hd : d.IsOrderly) (h : (name, content) ∈ d.files) :
    d.file? name = some content := by
  cases hd with
  | mk distinct named below => exact lookup_eq_some_of_mem (List.nodup_append.mp distinct).1 h

/-- A file shares its name with no subdirectory. -/
theorem folder?_eq_none (hd : d.IsOrderly) (h : (name, content) ∈ d.files) :
    d.folder? name = none := by
  cases hd with
  | mk distinct named below =>
      refine List.lookup_eq_none_iff.mpr fun entry hentry => ?_
      have hne := (List.nodup_append.mp distinct).2.2 _ (List.mem_map_of_mem h) _
        (List.mem_map_of_mem hentry)
      simpa using hne

theorem named_of_mem (hd : d.IsOrderly)
    (h : name ∈ d.files.map (·.1) ++ d.folders.map (·.1)) :
    name ≠ ['.', '.'] ∧ Text.Utf8.size name ≤ FileTree.nameLimit := by
  cases hd with
  | mk distinct named below => exact named name h

end IsOrderly

theorem mem_of_folder? (h : d.folder? name = some folder) : (name, folder) ∈ d.folders := by
  obtain ⟨before, after, hfolders, -⟩ := List.lookup_eq_some_iff.mp h
  rw [hfolders]
  simp

end Directory

namespace FileTree

variable {t : FileTree} {trail : List (Text × Directory)} {start d folder above : Directory}
  {name : Text} {before names location : List Text} {content : List UInt8}

@[simp] theorem descend_nil :
    descend trail start [] = .ok (.folder (trail.map (·.1)).reverse start) := rfl

/-- Above the root there is only the root. -/
@[simp] theorem descend_climb_nil :
    descend [] start (['.', '.'] :: names) = descend [] start names := by
  simp [descend]

@[simp] theorem descend_climb_cons :
    descend ((name, above) :: trail) start (['.', '.'] :: names) = descend trail above names := by
  simp [descend]

theorem descend_folder (hname : name ≠ ['.', '.']) (hsize : Text.Utf8.size name ≤ nameLimit)
    (h : start.folder? name = some folder) :
    descend trail start (name :: names) = descend ((name, start) :: trail) folder names := by
  simp [descend, hname, Nat.not_lt.mpr hsize, h]

theorem descend_file (hname : name ≠ ['.', '.']) (hsize : Text.Utf8.size name ≤ nameLimit)
    (hfolder : start.folder? name = none) (h : start.file? name = some content) :
    descend trail start [name] = .ok (.file (name :: trail.map (·.1)).reverse content) := by
  simp [descend, hname, Nat.not_lt.mpr hsize, hfolder, h]

/-- Going into a directory and back again, any number of times, leads nowhere. -/
theorem descend_rounds (hname : name ≠ ['.', '.']) (hsize : Text.Utf8.size name ≤ nameLimit)
    (h : start.folder? name = some folder) (n : Nat) :
    descend trail start ((List.replicate n [name, ['.', '.']]).flatten ++ names) =
      descend trail start names := by
  induction n with
  | zero => rfl
  | succ n ih =>
      rw [List.replicate_succ, List.flatten_cons, List.append_assoc, List.cons_append,
        descend_folder hname hsize h, List.cons_append, descend_climb_cons, List.nil_append, ih]

theorem descend_of_locate {place : Place} {path : Path} (h : t.locate path = .ok place) :
    descend [] t.root (t.here / path).parts = .ok place := by
  unfold locate at h
  split at h
  · cases h
  · exact h

/-- Names that come after others are followed from where the others lead. -/
theorem exists_trail_of_descend (h : descend trail start before = .ok (.folder location d)) :
    ∃ trail', location = (trail'.map (·.1)).reverse ∧
      ∀ names, descend trail start (before ++ names) = descend trail' d names := by
  fun_induction descend trail start before with
  | case1 trail start =>
      cases h
      exact ⟨trail, rfl, fun names => rfl⟩
  | case2 start rest ih =>
      obtain ⟨trail', hlocation, hnames⟩ := ih h
      exact ⟨trail', hlocation, fun names => by simpa using hnames names⟩
  | case3 start rest name above trail ih =>
      obtain ⟨trail', hlocation, hnames⟩ := ih h
      exact ⟨trail', hlocation, fun names => by simpa using hnames names⟩
  | case5 trail start name rest hname hsize folder hfolder ih =>
      obtain ⟨trail', hlocation, hnames⟩ := ih h
      refine ⟨trail', hlocation, fun names => ?_⟩
      rw [List.cons_append, descend_folder hname (Nat.not_lt.mp hsize) hfolder]
      exact hnames names
  | case4 | case6 | case7 | case8 | case9 => cases h

/-- Following names from an orderly directory leads to orderly directories only. -/
theorem isOrderly_of_descend (hstart : start.IsOrderly) (htrail : ∀ e ∈ trail, e.2.IsOrderly)
    (h : descend trail start before = .ok (.folder location d)) : d.IsOrderly := by
  fun_induction descend trail start before with
  | case1 trail start =>
      cases h
      exact hstart
  | case2 start rest ih => exact ih hstart htrail h
  | case3 start rest name above trail ih =>
      rw [List.forall_mem_cons] at htrail
      exact ih htrail.1 htrail.2 h
  | case5 trail start name rest hname hsize folder hfolder ih =>
      refine ih (hstart.isOrderly_folder (Directory.mem_of_folder? hfolder)) ?_ h
      exact List.forall_mem_cons.mpr ⟨hstart, htrail⟩
  | case4 | case6 | case7 | case8 | case9 => cases h

theorem isOrderly_of_locate {path : Path} (ht : t.root.IsOrderly)
    (h : t.locate path = .ok (.folder location d)) : d.IsOrderly :=
  isOrderly_of_descend ht (by simp) (descend_of_locate h)

theorem descend_of_hasFile (hd : d.IsOrderly) (h : d.HasFile names content) :
    descend trail d names = .ok (.file ((trail.map (·.1)).reverse ++ names) content) := by
  induction h generalizing trail with
  | own hfile =>
      obtain ⟨hname, hsize⟩ :=
        hd.named_of_mem (List.mem_append_left _ (List.mem_map_of_mem hfile))
      rw [descend_file hname hsize (hd.folder?_eq_none hfile) (hd.file?_eq_some hfile)]
      simp
  | inFolder hfolder hfile ih =>
      obtain ⟨hname, hsize⟩ :=
        hd.named_of_mem (List.mem_append_right _ (List.mem_map_of_mem hfolder))
      rw [descend_folder hname hsize (hd.folder?_eq_some hfolder),
        ih (hd.isOrderly_folder hfolder)]
      simp

end FileTree

end LinkAudit
