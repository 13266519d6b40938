import LinkAudit.FileTree

/-!
Changes of a file tree: writing and removing files and making directories.
-/

namespace LinkAudit

namespace Directory

def alter (change : Directory → Directory) : List Text → Directory → Directory
  | [], d => change d
  | name :: rest, .mk files folders =>
    .mk files (folders.map fun folder =>
      if folder.1 = name then (name, alter change rest folder.2) else folder)

def putFile (name : Text) (content : List UInt8) : Directory → Directory
  | .mk files folders => .mk ((files.filter (·.1 ≠ name)) ++ [(name, content)]) folders

def dropFile (name : Text) : Directory → Directory
  | .mk files folders => .mk (files.filter (·.1 ≠ name)) folders

def addFolder (name : Text) : Directory → Directory
  | .mk files folders => .mk files (folders ++ [(name, .empty)])

end Directory

namespace FileTree

/-- Applies a change that needs the last name of the location to the directory the other names lead
to. -/
def alterAt (t : FileTree) (location : List Text) (change : Text → Directory → Directory) :
    FileTree :=
  match location.getLast? with
  | some name => { t with root := t.root.alter (change name) location.dropLast }
  | none => t

def write (t : FileTree) (p : Path) (content : List UInt8) : Except FileError FileTree :=
  match t.locate p with
  | .ok (.file location _) | .ok (.vacant location) =>
    .ok (t.alterAt location fun name => .putFile name content)
  | .ok (.folder ..) => .error ⟨.isADirectory, p⟩
  | .error fault => .error ⟨fault, p⟩

def remove (t : FileTree) (p : Path) : FileTree :=
  match t.locate p with
  | .ok (.file location _) => t.alterAt location fun name => .dropFile name
  | _ => t

def makeDirectory (t : FileTree) (p : Path) : Except FileError FileTree :=
  match t.locate p with
  | .ok (.vacant location) => .ok (t.alterAt location fun name => .addFolder name)
  | .ok _ => .error ⟨.exists, p⟩
  | .error fault => .error ⟨fault, p⟩

/-- Makes a directory and as many of its parents as the first argument allows. That a directory is
already there is no error. -/
def makeDirectoriesWithin : Nat → FileTree → Path → Except FileError FileTree
  | depth, t, p =>
    match t.makeDirectory p with
    | .ok t => .ok t
    | .error e =>
      match e.fault, depth with
      | .notFound, depth + 1 => do
        let t ← makeDirectoriesWithin depth t p.parent
        match t.makeDirectory p with
        | .ok t => .ok t
        | .error e => if t.isDirectory p then .ok t else .error e
      | _, _ => if t.isDirectory p then .ok t else .error e

def makeDirectories (t : FileTree) (p : Path) : Except FileError FileTree :=
  makeDirectoriesWithin p.parts.length t p

/-- Puts a file at the path, with the directories above it. A tree in which that cannot be done
stays as it is. -/
def place (t : FileTree) (p : Path) (content : List UInt8) : FileTree :=
  ((t.makeDirectories p.parent).bind (·.write p content)).toOption.getD t

end FileTree

end LinkAudit
