import LinkAudit.Path
import LinkAudit.Text.Digit
import LinkAudit.Text.Quoted
import LinkAudit.Text.Utf8

/-!
A tree of directories and files as a value, with the current directory that relative paths start
from. Paths are followed one component at a time, so that `..` leaves only a directory that
exists.

The tree has no links and no special files, and of permissions only that to list a directory. The
current directory is taken to exist, and every name to be well-formed text without a null character.
Faults of devices and limits on the depth of nesting are left out.
-/

namespace LinkAudit

inductive FileFault where
  | notFound
  | exists
  | notADirectory
  | isADirectory
  | nameTooLong
  deriving DecidableEq

namespace FileFault

def number : FileFault → Nat
  | .notFound => 2
  | .exists => 17
  | .notADirectory => 20
  | .isADirectory => 21
  | .nameTooLong => 36

def reason : FileFault → Text
  | .notFound => "No such file or directory".toList
  | .exists => "File exists".toList
  | .notADirectory => "Not a directory".toList
  | .isADirectory => "Is a directory".toList
  | .nameTooLong => "File name too long".toList

end FileFault

structure FileError where
  fault : FileFault
  path : Path

def FileError.message (e : FileError) : Text :=
  "[Errno ".toList ++ Text.ofNat e.fault.number ++ "] ".toList ++ e.fault.reason ++ ": ".toList ++
    e.path.toText.quoted

inductive Directory where
  | mk (files : List (Text × List UInt8)) (folders : List (Text × Directory))

namespace Directory

def files : Directory → List (Text × List UInt8)
  | .mk files _ => files

def folders : Directory → List (Text × Directory)
  | .mk _ folders => folders

def empty : Directory := .mk [] []

def file? (d : Directory) (name : Text) : Option (List UInt8) := d.files.lookup name

def folder? (d : Directory) (name : Text) : Option Directory := d.folders.lookup name

end Directory

/-- What a path leads to, with the names that lead there from the root. A vacant place lies in an
existing directory. -/
inductive Place where
  | file (location : List Text) (content : List UInt8)
  | folder (location : List Text) (directory : Directory)
  | vacant (location : List Text)

/-- Locations are the names that lead to them from the root. -/
structure FileTree where
  root : Directory
  /-- The location of the current directory. -/
  current : List Text
  /-- The locations of directories that cannot be listed. -/
  unlisted : List (List Text) := []

namespace FileTree

/-- The longest name of a file, in bytes. -/
def nameLimit : Nat := 255

/-- The longest path that can be followed, in bytes. -/
def pathLimit : Nat := 4095

/-- Follows names from a directory. The trail holds the names passed on the way from the root and
the directory each of them was found in, the last one first. -/
def descend (trail : List (Text × Directory)) (here : Directory) :
    List Text → Except FileFault Place
  | [] => .ok (.folder (trail.map (·.1)).reverse here)
  | name :: rest =>
    if name = ['.', '.'] then
      match trail with
      | [] => descend [] here rest
      | (_, above) :: trail => descend trail above rest
    else if Text.Utf8.size name > nameLimit then .error .nameTooLong
    else match here.folder? name with
      | some folder => descend ((name, here) :: trail) folder rest
      | none =>
        let location := (name :: trail.map (·.1)).reverse
        match here.file? name, rest with
        | some content, [] => .ok (.file location content)
        | some _, _ => .error .notADirectory
        | none, [] => .ok (.vacant location)
        | none, _ => .error .notFound

def here (t : FileTree) : Path := ⟨.root, t.current⟩

def locate (t : FileTree) (p : Path) : Except FileFault Place :=
  if Text.Utf8.size p.toText > pathLimit then .error .nameTooLong
  else descend [] t.root (t.here / p).parts

/-- Whether the path leads to something. A path that cannot be followed does not. -/
def exists? (t : FileTree) (p : Path) : Bool :=
  match t.locate p with
  | .ok (.file ..) | .ok (.folder ..) => true
  | _ => false

/-- The directory at the path, if there is one; only an overlong name makes the question itself
fail. -/
def directory? (t : FileTree) (p : Path) : Except FileFault (Option Directory) :=
  match t.locate p with
  | .ok (.folder _ d) => .ok (some d)
  | .error .nameTooLong => .error .nameTooLong
  | _ => .ok none

def isDirectory (t : FileTree) (p : Path) : Bool :=
  match t.locate p with
  | .ok (.folder ..) => true
  | _ => false

def read (t : FileTree) (p : Path) : Except FileFault (List UInt8) :=
  match t.locate p with
  | .ok (.file _ content) => .ok content
  | .ok (.folder ..) => .error .isADirectory
  | .ok (.vacant _) => .error .notFound
  | .error fault => .error fault

end FileTree

end LinkAudit
