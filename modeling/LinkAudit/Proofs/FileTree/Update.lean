import LinkAudit.FileTree.Update
import LinkAudit.Proofs.FileTree

/-!
Reading what was written. Putting a file into one directory of a tree changes that directory and
those above it, each in the entry that leads on to it. So every way through the old tree is a way
through the new one, and it ends where it ended before, except that a way to the file now meets its
new content. The way may climb and come back, and pass the changed directories more than once.
-/

namespace LinkAudit

namespace Directory

variable {change : Directory → Directory} {d : Directory} {name other : Text} {names : List Text}
  {content : List UInt8}

@[simp] theorem alter_nil : d.alter change [] = change d := by
  cases d
  rfl

/-- A change is passed on along the first of its names, and other folders stay as they are. -/
theorem folder?_alter_cons :
    (d.alter change (name :: names)).folder? other =
      if other = name then (d.folder? other).map (alter change names) else d.folder? other := by
  obtain ⟨files, folders⟩ := d
  rw [alter, folder?, folder?, Directory.folders, Directory.folders]
  induction folders with
  | nil => simp
  | cons first rest ih =>
      obtain ⟨key, folder⟩ := first
      by_cases hkey : key = name
      · subst hkey
        by_cases hother : other = key
        · simp [hother]
        · simpa [hother, List.lookup_cons, beq_eq_false_iff_ne.mpr hother] using ih
      · by_cases hother : other = key
        · simp [hother, hkey]
        · simpa [hkey, List.lookup_cons, beq_eq_false_iff_ne.mpr hother] using ih

@[simp] theorem file?_alter_cons :
    (d.alter change (name :: names)).file? other = d.file? other := by
  cases d
  rfl

@[simp] theorem folder?_putFile : (d.putFile name content).folder? other = d.folder? other := by
  cases d
  rfl

theorem file?_putFile :
    (d.putFile name content).file? other =
      if other = name then some content else d.file? other := by
  obtain ⟨files, folders⟩ := d
  rw [putFile, file?, file?, Directory.files, Directory.files]
  induction files with
  | nil =>
      by_cases hother : other = name
      · simp [hother]
      · simp [hother, List.lookup_cons, beq_eq_false_iff_ne.mpr hother]
  | cons first rest ih =>
      obtain ⟨key, old⟩ := first
      by_cases hkey : key = name
      · subst hkey
        by_cases hother : other = key
        · simpa [hother] using ih
        · simpa [hother, List.lookup_cons, beq_eq_false_iff_ne.mpr hother] using ih
      · by_cases hother : other = key
        · simp [hother, hkey]
        · simpa [hkey, List.lookup_cons, beq_eq_false_iff_ne.mpr hother] using ih

end Directory

namespace FileTree

section Put

variable {target location : List Text} {name step : Text} {content : List UInt8}
  {trail : List (Text × Directory)} {here : Directory} {names : List Text}

def afterPut (target : List Text) (name : Text) (content : List UInt8) (location : List Text)
    (d : Directory) : Directory :=
  match target.dropPrefix? location with
  | some rest => d.alter (.putFile name content) rest
  | none => d

def trailAfterPut (target : List Text) (name : Text) (content : List UInt8) :
    List (Text × Directory) → List (Text × Directory)
  | [] => []
  | (step, above) :: trail =>
    (step, afterPut target name content (trail.map (·.1)).reverse above) ::
      trailAfterPut target name content trail

/-- Where a way ends, once the file has been put into the directory at the target. -/
def placeAfterPut (target : List Text) (name : Text) (content : List UInt8) : Place → Place
  | .file location old => .file location (if location = target ++ [name] then content else old)
  | .vacant location =>
    if location = target ++ [name] then .file location content else .vacant location
  | .folder location d => .folder location (afterPut target name content location d)

theorem map_fst_trailAfterPut :
    (trailAfterPut target name content trail).map (·.1) = trail.map (·.1) := by
  induction trail with
  | nil => rfl
  | cons entry trail ih => rw [trailAfterPut, List.map_cons, ih, List.map_cons]

theorem afterPut_append {rest : List Text} :
    afterPut (location ++ rest) name content location here =
      here.alter (.putFile name content) rest := by
  have hdrop : (location ++ rest).dropPrefix? location = some rest := by
    simp [List.dropPrefix?_eq_some_iff]
  rw [afterPut, hdrop]

theorem afterPut_eq_id (h : ¬location <+: target) :
    afterPut target name content location = id := by
  have hdrop : target.dropPrefix? location = none := by
    rw [Option.eq_none_iff_forall_not_mem]
    intro rest hrest
    rw [Option.mem_def, List.dropPrefix?_eq_some_iff] at hrest
    obtain ⟨same, htarget, hsame⟩ := hrest
    rw [beq_iff_eq] at hsame
    exact h ⟨rest, by rw [htarget, hsame]⟩
  funext d
  rw [afterPut, hdrop, id]

theorem folder?_afterPut :
    (afterPut target name content location here).folder? step =
      (here.folder? step).map (afterPut target name content (location ++ [step])) := by
  by_cases htarget : location <+: target
  · obtain ⟨rest, rfl⟩ := htarget
    rw [afterPut_append]
    cases rest with
    | nil =>
        have hpast : ¬location ++ [step] <+: location ++ [] := fun h => by
          simpa [Nat.add_one_le_iff] using h.length_le
        rw [Directory.alter_nil, Directory.folder?_putFile, afterPut_eq_id hpast,
          Option.map_id, id]
    | cons next rest =>
        rw [Directory.folder?_alter_cons]
        split
        · rename_i hstep
          subst hstep
          congr
          funext d
          rw [List.append_cons, afterPut_append]
        · rename_i hstep
          rw [afterPut_eq_id, Option.map_id, id]
          simpa using hstep
  · have hpast : ¬location ++ [step] <+: target := fun h =>
      htarget ((List.prefix_append location [step]).trans h)
    rw [afterPut_eq_id htarget, afterPut_eq_id hpast, Option.map_id, id, id]

theorem file?_afterPut :
    (afterPut target name content location here).file? step =
      if location ++ [step] = target ++ [name] then some content else here.file? step := by
  by_cases htarget : location <+: target
  · obtain ⟨rest, rfl⟩ := htarget
    rw [afterPut_append]
    cases rest with
    | nil =>
        rw [Directory.alter_nil, Directory.file?_putFile]
        simp
    | cons next rest =>
        rw [Directory.file?_alter_cons, if_neg]
        intro heq
        simpa using congrArg List.length heq
  · rw [afterPut_eq_id htarget, if_neg, id]
    intro heq
    exact htarget (List.append_inj_left' heq rfl ▸ List.prefix_rfl)

/-- What stands at a location behind which no directory is: a file, or nothing. -/
def placeOf (location : List Text) : Option (List UInt8) → Place
  | some content => .file location content
  | none => .vacant location

theorem descend_last (hstep : step ≠ ['.', '.']) (hsize : Text.Utf8.size step ≤ nameLimit)
    (h : here.folder? step = none) :
    descend trail here [step] =
      .ok (placeOf ((trail.map (·.1)).reverse ++ [step]) (here.file? step)) := by
  cases hfile : here.file? step with
  | none => simp [descend, hstep, Nat.not_lt.mpr hsize, h, hfile, placeOf]
  | some content => simp [descend, hstep, Nat.not_lt.mpr hsize, h, hfile, placeOf]

theorem placeAfterPut_placeOf {old : Option (List UInt8)} :
    placeAfterPut target name content (placeOf location old) =
      placeOf location (if location = target ++ [name] then some content else old) := by
  cases old with
  | none =>
      rw [placeOf, placeAfterPut]
      split <;> rfl
  | some old =>
      rw [placeOf, placeAfterPut]
      split <;> rfl

/-- The last step of a way leads to the same location, and there to the file if it was put there. -/
theorem descend_last_afterPut (hstep : step ≠ ['.', '.'])
    (hsize : Text.Utf8.size step ≤ nameLimit) (h : here.folder? step = none) :
    descend (trailAfterPut target name content trail)
        (afterPut target name content (trail.map (·.1)).reverse here) [step] =
      .ok (placeAfterPut target name content
        (placeOf ((trail.map (·.1)).reverse ++ [step]) (here.file? step))) := by
  have hstays : (afterPut target name content (trail.map (·.1)).reverse here).folder? step =
      none := by
    rw [folder?_afterPut, h, Option.map_none]
  rw [descend_last hstep hsize hstays, file?_afterPut, map_fst_trailAfterPut,
    placeAfterPut_placeOf]

/-- A way through the tree is a way through the changed tree. -/
theorem descend_afterPut {place : Place} (h : descend trail here names = .ok place) :
    descend (trailAfterPut target name content trail)
        (afterPut target name content (trail.map (·.1)).reverse here) names =
      .ok (placeAfterPut target name content place) := by
  -- a climb finds the changed directory above in the trail
  fun_induction descend trail here names with
  | case1 trail here =>
      cases h
      rw [descend_nil, map_fst_trailAfterPut]
      rfl
  | case2 here rest ih => simpa [trailAfterPut] using ih h
  | case3 here rest step above trail ih => simpa [trailAfterPut] using ih h
  | case5 trail here step rest hstep hsize folder hfolder ih =>
      have hseen : (afterPut target name content (trail.map (·.1)).reverse here).folder? step =
          some (afterPut target name content ((trail.map (·.1)).reverse ++ [step]) folder) := by
        rw [folder?_afterPut, hfolder, Option.map_some]
      rw [descend_folder hstep (Nat.not_lt.mp hsize) hseen]
      simpa [trailAfterPut] using ih h
  | case6 trail here step hstep hsize hfolder location old hfile =>
      cases h
      have hlocation : location = (trail.map (·.1)).reverse ++ [step] := List.reverse_cons
      rw [descend_last_afterPut hstep (Nat.not_lt.mp hsize) hfolder, hfile, hlocation]
      rfl
  | case8 trail here step hstep hsize hfolder location hfile =>
      cases h
      have hlocation : location = (trail.map (·.1)).reverse ++ [step] := List.reverse_cons
      rw [descend_last_afterPut hstep (Nat.not_lt.mp hsize) hfolder, hfile, hlocation]
      rfl
  | case4 | case7 | case9 => cases h

/-- A way ends in a directory, or behind one at a name. -/
theorem exists_placeOf_of_descend {place : Place} (h : descend trail here names = .ok place) :
    (∃ location d, place = .folder location d) ∨
      ∃ target name old, place = placeOf (target ++ [name]) old := by
  fun_induction descend trail here names with
  | case1 trail here =>
      cases h
      exact .inl ⟨_, here, rfl⟩
  | case2 here rest ih => exact ih h
  | case3 here rest step above trail ih => exact ih h
  | case5 trail here step rest hstep hsize folder hfolder ih => exact ih h
  | case6 trail here step hstep hsize hfolder location old hfile =>
      cases h
      exact .inr ⟨(trail.map (·.1)).reverse, step, some old, by simp [placeOf, location]⟩
  | case8 trail here step hstep hsize hfolder location hfile =>
      cases h
      exact .inr ⟨(trail.map (·.1)).reverse, step, none, by simp [placeOf, location]⟩
  | case4 | case7 | case9 => cases h

end Put

variable {t t' : FileTree} {p q : Path} {content old : List UInt8} {location : List Text}

/-- A path leads through the changed tree to where it led before. -/
theorem locate_alterAt_putFile {target : List Text} {name : Text} {place : Place}
    (h : t.locate q = .ok place) :
    (t.alterAt (target ++ [name]) fun name => .putFile name content).locate q =
      .ok (placeAfterPut target name content place) := by
  have hroot : t.alterAt (target ++ [name]) (fun name => .putFile name content) =
      { t with root := afterPut ([] ++ target) name content [] t.root } := by
    rw [alterAt, List.getLast?_append, List.dropLast_concat, afterPut_append]
    rfl
  unfold locate at h ⊢
  split at h
  · cases h
  · rename_i hlength
    rw [hroot, if_neg hlength]
    exact descend_afterPut h

/-- Writing a file changes what one location holds. -/
theorem exists_location_of_write (h : t.write p content = .ok t') :
    ∃ target name before, t.locate p = .ok (placeOf (target ++ [name]) before) ∧
      t' = t.alterAt (target ++ [name]) fun name => .putFile name content := by
  have hends {place : Place} (hplace : t.locate p = .ok place) :=
    exists_placeOf_of_descend (descend_of_locate hplace)
  unfold write at h
  split at h
  · rename_i location before hplace
    cases h
    obtain ⟨_, _, hend⟩ | ⟨target, name, _ | old, hend⟩ := hends hplace
    · cases hend
    · cases hend
    · cases hend
      exact ⟨target, name, some before, hplace, rfl⟩
  · rename_i location hplace
    cases h
    obtain ⟨_, _, hend⟩ | ⟨target, name, _ | old, hend⟩ := hends hplace
    · cases hend
    · cases hend
      exact ⟨target, name, none, hplace, rfl⟩
    · cases hend
  · cases h
  · cases h

/-- What was written to a path is read from it. -/
theorem read_write (h : t.write p content = .ok t') : t'.read p = .ok content := by
  obtain ⟨target, name, before, hlocate, rfl⟩ := exists_location_of_write h
  rw [read, locate_alterAt_putFile hlocate, placeAfterPut_placeOf, if_pos rfl]
  rfl

/-- Every other file keeps its content. -/
theorem read_write_of_ne (h : t.write p content = .ok t')
    (hfile : t.locate q = .ok (.file location old))
    (hne : ∀ before, t.locate p ≠ .ok (placeOf location before)) : t'.read q = .ok old := by
  obtain ⟨target, name, before, hlocate, rfl⟩ := exists_location_of_write h
  have hlocation : location ≠ target ++ [name] := by
    rintro rfl
    exact hne before hlocate
  rw [read, locate_alterAt_putFile hfile, placeAfterPut, if_neg hlocation]

end FileTree

end LinkAudit
