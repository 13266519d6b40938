import LinkAudit.Report.File
import LinkAudit.Proofs.FileTree.Update
import LinkAudit.Proofs.Text.Utf8
import Mathlib.Data.List.Basic

/-!
A report as a whole. There is one unless it is verbose and a total is too large to show, and it
always has a line. For that reason the text of a report in a file is its text on a screen: to write
the end of each line is to write one between each two lines and one at the end. What was written to
a file can be read from it again, and a file that nothing was written to has a path that the system
refuses, or one that cannot be handed to it.
-/

namespace LinkAudit

theorem exists_of_bind_eq_ok {ε α β : Type} {x : Except ε α} {f : α → Except ε β} {b : β}
    (h : x >>= f = .ok b) : ∃ a, x = .ok a ∧ f a = .ok b := by
  cases x with
  | error e => cases h
  | ok a => exact ⟨a, rfl, h⟩

theorem mapError_eq_ok_iff {ε ε' α : Type} {f : ε → ε'} {x : Except ε α} {a : α} :
    x.mapError f = .ok a ↔ x = .ok a := by
  cases x <;> simp [Except.mapError]

theorem Path.isPassable_parent {path : Path} (h : path.isPassable = true) :
    path.parent.isPassable = true := by
  rw [isPassable, List.all_eq_true] at h ⊢
  exact fun part hpart => h part (List.dropLast_subset path.parts hpart)

namespace Report

variable {c : ReportContext} {a : Analysis} {lines : List Text}

/-- A file of a report holds what the screen shows. -/
theorem fileText_eq_screenText (h : lines ≠ []) : fileText lines = screenText lines := by
  induction lines with
  | nil => contradiction
  | cons line rest ih =>
      cases rest with
      | nil => simp [fileText, screenText, Text.joinWith]
      | cons next rest =>
          rw [screenText, List.flatMap_cons, ← screenText, ← ih (by simp), fileText, fileText,
            Text.joinWith, Text.joinWith, List.intercalate_cons_cons]
          simp only [List.append_assoc]

/-- A file that a report was written to holds what the screen shows. -/
theorem exists_read_of_writeFile {tree tree' : FileTree} {path : Path} (hlines : lines ≠ [])
    (h : writeFile tree path lines = .ok tree') :
    ∃ bytes, tree'.read path = .ok bytes ∧ Text.Utf8.decode? bytes = some (screenText lines) := by
  unfold writeFile at h
  split at h
  · cases h
  · obtain ⟨made, -, h⟩ := exists_of_bind_eq_ok h
    split at h
    · refine ⟨_, FileTree.read_write (mapError_eq_ok_iff.mp h), ?_⟩
      rw [Text.Utf8.decode?_encode, fileText_eq_screenText hlines]
    · cases h

/-- Whether the system can be asked for the file, or refuses a directory on the way before it is. -/
def IsNameable (tree : FileTree) (path : Path) : Prop :=
  path.isPassable = true ∨
    path.parent.isPassable = true ∧ ∃ e, tree.makeDirectories path.parent = .error e

theorem mapError_file_ne_null {x : Except FileError FileTree} :
    x.mapError WriteError.file ≠ .error .nullCharacter := by
  cases x <;> simp [Except.mapError]

/-- A null character comes in the way of a report if and only if its file cannot be named. -/
theorem writeFile_eq_null_iff {tree : FileTree} {path : Path} :
    writeFile tree path lines = .error .nullCharacter ↔ ¬IsNameable tree path := by
  cases hparent : path.parent.isPassable with
  | false =>
      have hpath : path.isPassable ≠ true := by
        intro h
        rw [Path.isPassable_parent h] at hparent
        cases hparent
      simp [writeFile, IsNameable, hparent, hpath]
  | true =>
      cases hmade : tree.makeDirectories path.parent with
      | error e => simp [writeFile, IsNameable, hparent, hmade, Except.mapError, bind, Except.bind]
      | ok made =>
          have hwrite : writeFile tree path lines =
              if path.isPassable then
                (made.write path (Text.Utf8.encode (fileText lines))).mapError .file
              else .error .nullCharacter := by
            simp [writeFile, hparent, hmade, Except.mapError, bind, Except.bind]
          rw [hwrite]
          split
          · rename_i hpath
            simp [IsNameable, hpath, mapError_file_ne_null]
          · rename_i hpath
            simp [IsNameable, hpath, hmade]

theorem groupedLines_ne_nil (groups : List ReportGroup) : groupedLines c groups ≠ [] := by
  unfold groupedLines
  split <;> simp

theorem body_ne_nil : body c a ≠ [] := by
  unfold body
  split
  · simp
  · exact groupedLines_ne_nil _

theorem ne_nil_of_lines? (h : lines? c a = some lines) : lines ≠ [] := by
  unfold lines? at h
  split at h
  · obtain ⟨overview, -, rfl⟩ := Option.map_eq_some_iff.mp h
    simp
  · cases h
    exact body_ne_nil

/-- Only the totals of a verbose report can be too large to show. -/
theorem lines?_eq_none_iff :
    lines? c a = none ↔ c.config.verbose = true ∧
      (Bytes.text? a.rawSize = none ∨ Bytes.text? a.findingsSize = none) := by
  have hoverview : overview? c a = none ↔
      Bytes.text? a.rawSize = none ∨ Bytes.text? a.findingsSize = none := by
    cases hraw : Bytes.text? a.rawSize with
    | none => simp [overview?, sizedLine?, hraw]
    | some raw =>
        cases hfindings : Bytes.text? a.findingsSize with
        | none => simp [overview?, sizedLine?, hraw, hfindings]
        | some findings => simp [overview?, sizedLine?, hraw, hfindings]
  unfold lines?
  split
  · rename_i hverbose
    rw [Option.map_eq_none_iff, hoverview]
    simp [hverbose]
  · rename_i hquiet
    simp [hquiet]

end Report

end LinkAudit
