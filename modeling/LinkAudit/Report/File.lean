import LinkAudit.FileTree.Update
import LinkAudit.Report

/-!
Reports in files. The directories on the way to the file are made if they are missing. A path that
cannot be handed to the system is met where it is first needed: with its directories or, if only its
name cannot be handed over, with the file.
-/

namespace LinkAudit.Report

inductive WriteError where
  | file (e : FileError)
  | nullCharacter

def writeFile (tree : FileTree) (path : Path) (lines : List Text) : Except WriteError FileTree :=
  if !path.parent.isPassable then .error .nullCharacter
  else do
    let tree ← (tree.makeDirectories path.parent).mapError .file
    if path.isPassable then
      (tree.write path (Text.Utf8.encode (fileText lines))).mapError .file
    else .error .nullCharacter

end LinkAudit.Report
