import LinkAudit.FileTree.Walk
import LinkAudit.Text.Case

/-!
The index of a project's source files by stem. Of the files with one stem the index has the first
that the walk of the tree meets, where the walk leaves out directories that hold no sources of the
project.
-/

namespace LinkAudit

abbrev SourceIndex := Std.TreeMap Text Path

namespace SourceIndex

def extensions : List Text :=
  [".swift", ".m", ".mm", ".c", ".cc", ".cpp", ".metal"].map String.toList

def skippedDirectories : List Text :=
  [".build", "build", "Build", "DerivedData", ".git", ".svn", "xcuserdata", "xcshareddata",
   "node_modules"].map String.toList

def dependencyDirectory : Text := "Pods".toList

def isHidden (name : Text) : Bool := ['.'].isPrefixOf name

def enters (withDependencies : Bool) (name : Text) : Bool :=
  !isHidden name && !skippedDirectories.contains name &&
    (withDependencies || name != dependencyDirectory)

def isSource (file : Path) : Bool :=
  !isHidden file.name && extensions.contains file.extension.lower

/-- Indexes files by stem; the first file of a stem stays. -/
def ofFiles (files : List Path) : SourceIndex :=
  files.foldl (fun index file => index.insertIfNew file.stem file) ∅

def sourcesBelow (tree : FileTree) (withDependencies : Bool) (root : Path) : List Path :=
  (tree.filesBelow (enters withDependencies) root).filter isSource

/-- The index of the sources below a root. Without a root, or where the root is no directory, it is
empty. -/
def build (tree : FileTree) (withDependencies : Bool) : Option Path → Except FileError SourceIndex
  | none => .ok ∅
  | some root =>
    match tree.directory? root with
    | .error fault => .error ⟨fault, root⟩
    | .ok none => .ok ∅
    | .ok (some _) => .ok (ofFiles (sourcesBelow tree withDependencies root))

end SourceIndex

end LinkAudit
