import LinkAudit.FileTree.Walk
import LinkAudit.Text.Case

/-!
Finding files by name below a root. Every directory is searched, and of several files with one
name the first in the order of the walk is taken. A finder remembers what it found and what it
missed, for each root by its normal path, and never searches again for what it remembers.
-/

namespace LinkAudit

/-- The names of files, each with the first file of that name in the order of the walk. -/
abbrev Catalogue := Std.TreeMap Text Path

namespace Catalogue

def ofFiles (files : List Path) : Catalogue :=
  files.foldl (fun known file => known.insertIfNew file.name file) ∅

def below (tree : FileTree) : Option Path → Catalogue
  | none => ∅
  | some root => ofFiles (tree.filesBelow (fun _ => true) root)

end Catalogue

namespace SourceFinder

/-- Part of the lowered names of sources that exist only while a build runs. -/
def generatedMark : Text := "generatedassetsymbols".toList

def isGenerated (fileName : Text) : Bool := fileName.lower.mentions generatedMark

def search (tree : FileTree) (fileName : Text) (root : Path) : Option Path :=
  (tree.filesBelow (fun _ => true) root).find? (·.name == fileName)

end SourceFinder

structure SourceFinder where
  known : List ((Path × Text) × Option Path)

namespace SourceFinder

def fresh : SourceFinder := ⟨[]⟩

/-- Answers from memory, or else from the tree, and remembers the answer. Generated sources are not
looked for and leave no memory. -/
def find (finder : SourceFinder) (tree : FileTree) (fileName : Text) :
    Option Path → Option Path × SourceFinder
  | none => (none, finder)
  | some root =>
    if isGenerated fileName then (none, finder)
    else
      let key := (root.normal tree.here, fileName)
      match finder.known.lookup key with
      | some answer => (answer, finder)
      | none =>
        let answer := search tree fileName root
        (answer, ⟨(key, answer) :: finder.known⟩)

end SourceFinder

end LinkAudit
