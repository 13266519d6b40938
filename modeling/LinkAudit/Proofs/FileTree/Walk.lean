import LinkAudit.FileTree.Walk
import LinkAudit.Proofs.FileTree
import LinkAudit.Proofs.Path

/-!
What a walk lists: exactly the names that lead to a file through directories that are listed. From
the root that is walked, each of them spells the path of a file below that root, which can be read
wherever the tree is orderly and the path is not too long.
-/

namespace LinkAudit

namespace Directory

variable {opens : List Text → Bool} {d : Directory} {names : List Text}

theorem walkFolders_eq_map (folders : List (Text × Directory)) :
    walkFolders opens folders = folders.map fun folder =>
      (folder.1, folder.2.walk fun names => opens (folder.1 :: names)) := by
  induction folders with
  | nil => rfl
  | cons folder rest ih => rw [walkFolders, ih, List.map_cons]

/-- A walk lists a directory's own files and what it lists of each subdirectory, provided that the
directory is listed. -/
theorem mem_walk :
    names ∈ d.walk opens ↔ opens [] = true ∧
      ((∃ name content, names = [name] ∧ (name, content) ∈ d.files) ∨
        ∃ name folder rest, names = name :: rest ∧ (name, folder) ∈ d.folders ∧
          rest ∈ folder.walk fun names => opens (name :: names)) := by
  obtain ⟨files, folders⟩ := d
  rw [walk]
  split
  · rename_i hopen
    rw [List.mem_append, List.mem_map, List.mem_flatMap, walkFolders_eq_map]
    simp only [List.mem_mergeSort, List.mem_map, Prod.exists, hopen, true_and]
    constructor
    · rintro (⟨name, ⟨file, content, hfile, rfl⟩, rfl⟩ | ⟨name, _, hlisted, hnames⟩)
      · exact .inl ⟨file, content, rfl, hfile⟩
      · obtain ⟨_, folder, hfolder, hlisted⟩ := hlisted
        cases hlisted
        obtain ⟨rest, hrest, rfl⟩ := hnames
        exact .inr ⟨name, folder, rest, rfl, hfolder, hrest⟩
    · rintro (⟨name, content, rfl, hfile⟩ | ⟨name, folder, rest, rfl, hfolder, hrest⟩)
      · exact .inl ⟨name, ⟨name, content, hfile, rfl⟩, rfl⟩
      · exact .inr ⟨name, _, ⟨name, folder, hfolder, rfl⟩, rest, hrest, rfl⟩
  · rename_i hclosed
    simp [hclosed]

/-- A walk lists exactly the names of files in directories that are listed, from the first on. -/
theorem mem_walk_iff_hasFile :
    names ∈ d.walk opens ↔
      (∃ content, d.HasFile names content) ∧
        ∀ above, above <+: names.dropLast → opens above = true := by
  constructor
  · -- every directory on the way takes the first of the names
    intro h
    induction names generalizing d opens with
    | nil =>
        obtain ⟨-, ⟨_, _, hnames, -⟩ | ⟨_, _, _, hnames, -⟩⟩ := mem_walk.mp h
        · cases hnames
        · cases hnames
    | cons name rest ih =>
        obtain ⟨hopen, ⟨_, content, hnames, hfile⟩ | ⟨_, folder, _, hnames, hfolder, hrest⟩⟩ :=
          mem_walk.mp h
        · cases hnames
          refine ⟨⟨content, .own hfile⟩, fun above habove => ?_⟩
          rw [List.prefix_nil.mp habove]
          exact hopen
        · cases hnames
          obtain ⟨⟨content, hfile⟩, hopens⟩ := ih hrest
          refine ⟨⟨content, .inFolder hfolder hfile⟩, fun above habove => ?_⟩
          rw [List.dropLast_cons_of_ne_nil hfile.ne_nil, List.prefix_cons_iff] at habove
          rcases habove with rfl | ⟨inner, rfl, hinner⟩
          · exact hopen
          · exact hopens inner hinner
  · rintro ⟨⟨content, hfile⟩, hopens⟩
    have hopen := hopens [] List.nil_prefix
    induction hfile generalizing opens with
    | own hfile => exact mem_walk.mpr ⟨hopen, .inl ⟨_, _, rfl, hfile⟩⟩
    | @inFolder d folder name names content hfolder hfile ih =>
        rw [List.dropLast_cons_of_ne_nil hfile.ne_nil] at hopens
        have hrest (above : List Text) (habove : above <+: names.dropLast) :
            opens (name :: above) = true :=
          hopens _ (List.cons_prefix_cons.mpr ⟨rfl, habove⟩)
        exact mem_walk.mpr
          ⟨hopen, .inr ⟨_, _, _, rfl, hfolder, ih hrest (hrest [] List.nil_prefix)⟩⟩

end Directory

namespace FileTree

variable {t : FileTree} {enters : Text → Bool} {root path : Path} {location names : List Text}

theorem spelledSize_append (names rest : List Text) :
    spelledSize (names ++ rest) = spelledSize names + spelledSize rest := by
  induction names with
  | nil => simp [spelledSize]
  | cons name names ih =>
      rw [List.cons_append, spelledSize, spelledSize, ih]
      omega

/-- Whether every directory on the way to a file below a root can be listed and has a path, spelled
from the root, that can be followed. The root has a location. -/
structure IsInReach (t : FileTree) (root : Path) (location names : List Text) : Prop where
  near : spelledSize names.dropLast ≤ roomAfter root
  listed : ∀ above, above <+: names.dropLast → location ++ above ∉ t.unlisted

theorem forall_opens_iff :
    (∀ above, above <+: names.dropLast → t.opens enters root location above = true) ↔
      (∀ folder ∈ names.dropLast, enters folder = true) ∧ t.IsInReach root location names := by
  simp only [opens, Bool.and_eq_true, List.all_eq_true, decide_eq_true_eq, Bool.not_eq_true',
    List.contains_eq_mem, decide_eq_false_iff_not]
  constructor
  · intro h
    obtain ⟨⟨hentered, hnear⟩, -⟩ := h _ List.prefix_rfl
    exact ⟨hentered, hnear, fun above habove => (h above habove).2⟩
  · rintro ⟨hentered, hnear, hlisted⟩ above habove
    refine ⟨⟨fun folder hfolder => hentered folder (habove.subset hfolder), ?_⟩,
      hlisted above habove⟩
    obtain ⟨rest, hrest⟩ := habove
    rw [← hrest, spelledSize_append] at hnear
    omega

/-- Whether the tree has a file below the root, where the path is spelled from the root as the root
is given. -/
def HasFileBelow (t : FileTree) (root path : Path) : Prop :=
  ∃ location d names content, t.locate root = .ok (.folder location d) ∧
    d.HasFile names content ∧ path = { root with parts := root.parts ++ names }

theorem hasFileBelow_of_mem_filesBelow (h : path ∈ t.filesBelow enters root) :
    t.HasFileBelow root path := by
  unfold filesBelow at h
  split at h
  · rename_i location d hroot
    obtain ⟨names, hnames, rfl⟩ := List.mem_map.mp h
    obtain ⟨⟨content, hfile⟩, -⟩ := Directory.mem_walk_iff_hasFile.mp hnames
    exact ⟨location, d, names, content, hroot, hfile, rfl⟩
  · simp at h

/-- In an orderly tree a file below a root can be read, unless its path is too long. -/
theorem HasFileBelow.read_eq_ok (h : t.HasFileBelow root path) (ht : t.root.IsOrderly)
    (hlength : Text.Utf8.size path.toText ≤ pathLimit) : ∃ content, t.read path = .ok content := by
  obtain ⟨location, d, names, content, hroot, hfile, rfl⟩ := h
  have hd := isOrderly_of_locate ht hroot
  obtain ⟨trail, -, hnames⟩ := exists_trail_of_descend (descend_of_locate hroot)
  refine ⟨content, ?_⟩
  rw [read, locate, if_neg (Nat.not_lt.mpr hlength), Path.append_extended, hnames,
    descend_of_hasFile hd hfile]

end FileTree

end LinkAudit
