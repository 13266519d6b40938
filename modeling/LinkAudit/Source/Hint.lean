import LinkAudit.LinkMap
import LinkAudit.Source.Finder
import LinkAudit.Source.Index

/-!
Hints at the source of an object or of a symbol. A hint says how to show the source and, where one
was found, which file it is. Sources are found by the stems of an object's name, first in the
index and then among all files of the project, and by the paths that the names of literals carry.

A project can be looked at again after its tree has changed. The index stays as it was, and a file
name that was looked for keeps its answer, a miss too; all else is looked up in the tree as it is
now. Main statement: in a tree that has not changed the hints stay the same (`hint_revisited`).
-/

namespace LinkAudit

structure SourceHint where
  display : Text
  path : Option Path
  hasSource : Bool
  deriving DecidableEq

/-- What is known about a project: the tree it lies in, its root, the index of its sources, the
files below its root, and the answers for file names that were looked for before. -/
structure Project where
  tree : FileTree
  root : Option Path
  index : SourceIndex
  known : Std.TreeMap Text (Option Path) := ∅
  files : Catalogue := Catalogue.below tree root
  files_eq : files = Catalogue.below tree root := by rfl

namespace ObjectFile

/-- The name and what is left of it as its extensions are taken off, one at a time. -/
def stemsFrom (name : Text) : List Text :=
  let shorter := (Path.splitExtension name).1
  name :: if shorter.length < name.length then stemsFrom shorter else []
termination_by name.length

/-- The stems under which the source of an object file may be known, the longest first. -/
def stemsOf (path : Text) : List Text :=
  let stem := (Path.ofText path).stem
  if stem.isEmpty then [] else stemsFrom stem

def stems (o : ObjectFile) : List Text := stemsOf o.path

end ObjectFile

namespace Project

def display (p : Project) (path : Path) : Text := path.relativeText p.tree.here p.root

def sourceHint (p : Project) (path : Path) : SourceHint := ⟨p.display path, some path, true⟩

/-- The file of this name below the root, from memory where the name is known. Sources that are
generated are not looked for. -/
def file? (p : Project) (fileName : Text) : Option Path :=
  if SourceFinder.isGenerated fileName then none
  else (p.known[fileName]?).getD p.files[fileName]?

def literalMark : Text := "literal string:".toList

/-- What follows the mark in the name of a literal. The mark is looked for in the lowered name. -/
def literalPayload? (name : Text) : Option Text := do
  let start ← name.lower.position? literalMark
  Text.nonempty? (Text.trimBlanks (name.drop (start + literalMark.length)))

def existing? (p : Project) (path : Path) : Option Path := do
  let root ← p.root
  if p.tree.exists? (root / path) then some (root / path) else none

/-- The file that a literal's payload points to: a source of the index with its stem, or an existing
path, where underscores may stand for slashes. A payload without slash or extension is no path. -/
def payloadSource? (p : Project) (payload : Text) : Option Path :=
  let path := Path.ofText payload
  p.index[path.stem]? <|>
    p.existing? (Path.ofText (payload.replace ['_'] ['/'])) <|>
    if !payload.contains '/' && path.extension.isEmpty then none
    else
      (if path.anchor ≠ .here && p.tree.exists? path then some path else none) <|> p.existing? path

def literalHint? (p : Project) (name : Text) : Option SourceHint := do
  let payload ← literalPayload? name
  (p.payloadSource? payload).map p.sourceHint

def probed : List Text := [".swift".toList, ".m".toList]

/-- The names that the source of an object may have, in the order in which they are tried. -/
def sourceNames (o : ObjectFile) : List Text := o.stems.flatMap fun stem => probed.map (stem ++ ·)

def indexed? (p : Project) (o : ObjectFile) : Option Path := o.stems.findSome? (p.index[·]?)

def objectSource? (p : Project) (o : ObjectFile) : Option Path :=
  p.indexed? o <|> (sourceNames o).findSome? p.file?

def sourceBeside (o : ObjectFile) : Path :=
  let path := Path.ofText o.path
  path.parent.child (o.stems.getLast?.getD path.name ++ ".swift".toList)

def besideHint (p : Project) (o : ObjectFile) : SourceHint :=
  let beside := sourceBeside o
  { display := if p.root.isSome then p.display beside else beside.name
    path := if p.tree.exists? beside then some beside else none
    hasSource := false }

/-- The hint for a symbol of the object, given what its name says as a literal. -/
def hint (p : Project) (o : Option ObjectFile) (literal : Option SourceHint) : SourceHint :=
  match o with
  | none => literal.getD ⟨"(unknown.o)".toList, none, false⟩
  | some o =>
    match p.objectSource? o with
    | some path => p.sourceHint path
    | none => literal.getD (p.besideHint o)

/-- The file names that are looked for on behalf of an object: none if the index has its source, or
else those up to the first that is found. -/
def namesAsked (p : Project) (o : ObjectFile) : List Text :=
  if (p.indexed? o).isSome then []
  else
    let names := sourceNames o
    names.take ((names.takeWhile fun name => (p.file? name).isNone).length + 1)

def knownAfter (p : Project) (objects : List ObjectFile) : Std.TreeMap Text (Option Path) :=
  (objects.flatMap p.namesAsked).foldl (fun known name => known.insert name (p.file? name)) p.known

/-- The project in a changed tree, once hints for the objects have been given. -/
def revisited (p : Project) (objects : List ObjectFile) (tree : FileTree) : Project :=
  { tree, root := p.root, index := p.index, known := p.knownAfter objects }

/-- Answers are remembered as they were given. -/
theorem getD_foldl_insert (p : Project) (name : Text) (names : List Text)
    (known : Std.TreeMap Text (Option Path))
    (hknown : (known[name]?).getD p.files[name]? = p.file? name) :
    ((names.foldl (fun known name => known.insert name (p.file? name)) known)[name]?).getD
      p.files[name]? = p.file? name := by
  induction names generalizing known with
  | nil => exact hknown
  | cons other rest ih =>
    apply ih
    rw [Std.TreeMap.getElem?_insert]
    split
    · rename_i h
      simp [Std.LawfulEqCmp.eq_of_compare h]
    · exact hknown

theorem file?_revisited (p : Project) (objects : List ObjectFile) (name : Text) :
    (p.revisited objects p.tree).file? name = p.file? name := by
  have hfiles : (p.revisited objects p.tree).files = p.files := p.files_eq.symm
  cases hname : SourceFinder.isGenerated name with
  | true => simp [file?, hname]
  | false =>
    rw [file?, hfiles, hname]
    exact p.getD_foldl_insert name (objects.flatMap p.namesAsked) p.known (by simp [file?, hname])

/-- A second look at a tree that has not changed gives the hints of the first. -/
theorem hint_revisited (p : Project) (objects : List ObjectFile) :
    (p.revisited objects p.tree).hint = p.hint := by
  have hfile : (p.revisited objects p.tree).file? = p.file? := funext (p.file?_revisited objects)
  funext o literal
  cases o with
  | none => rfl
  | some o =>
    simp only [hint, objectSource?, hfile]
    rfl

end Project

end LinkAudit
