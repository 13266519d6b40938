import LinkAudit.FileTree

/-!
The order in which a directory tree is walked: first a directory's own files in the order of their
names, then its subdirectories in the order of theirs, each walked in the same way. A directory that
cannot be listed is passed over with all that lies below it. That a path is too long to be followed
is one reason for it, where the path is spelled from the root of the walk.
-/

namespace LinkAudit

namespace Directory

mutual

/-- The files that are listed, each as the names that lead to it. The condition says of the names
that lead to a directory whether the directory is listed. -/
def walk (opens : List Text → Bool) : Directory → List (List Text)
  | .mk files folders =>
    if opens [] then
      ((files.map (·.1)).mergeSort Text.le).map ([·]) ++
        ((walkFolders opens folders).mergeSort fun a b => Text.le a.1 b.1).flatMap
          fun folder => folder.2.map (folder.1 :: ·)
    else []

def walkFolders (opens : List Text → Bool) :
    List (Text × Directory) → List (Text × List (List Text))
  | [] => []
  | (name, folder) :: rest =>
    (name, folder.walk fun names => opens (name :: names)) :: walkFolders opens rest

end

end Directory

namespace FileTree

/-- The bytes that names take in a path, each with a slash. -/
def spelledSize : List Text → Nat
  | [] => 0
  | name :: names => Text.Utf8.size name + 1 + spelledSize names

/-- The bytes by which a path may grow until it is too long to be followed. A slash at its end
counts for what is appended. -/
def roomAfter (p : Path) : Nat :=
  let text := p.toText
  pathLimit - Text.Utf8.size (if text.getLast? = some '/' then text.dropLast else text)

/-- Whether a walk from a root lists the directory that the names lead to. The root has a location,
and the walk enters only directories of certain names. -/
def opens (t : FileTree) (enters : Text → Bool) (root : Path) (location names : List Text) : Bool :=
  names.all enters && decide (spelledSize names ≤ roomAfter root) &&
    !t.unlisted.contains (location ++ names)

/-- The files below a root in the order of the walk, each spelled from the root as it is given. -/
def filesBelow (t : FileTree) (enters : Text → Bool) (root : Path) : List Path :=
  match t.locate root with
  | .ok (.folder location d) =>
    (d.walk (t.opens enters root location)).map fun names =>
      { root with parts := root.parts ++ names }
  | _ => []

end FileTree

end LinkAudit
