import LinkAudit.Text.Basic

/-!
Paths with `/` between their components. Reading a path drops empty components and `.`, and keeps
`..`, which only normalisation resolves. A path that starts with exactly two slashes has a root of
its own.
-/

namespace LinkAudit

inductive Anchor where
  | here
  | root
  | doubleRoot
  deriving DecidableEq

def Anchor.text : Anchor → Text
  | .here => []
  | .root => ['/']
  | .doubleRoot => ['/', '/']

structure Path where
  anchor : Anchor
  parts : List Text
  deriving DecidableEq

namespace Path

def ofText (t : Text) : Path where
  anchor :=
    match (t.takeWhile (· = '/')).length with
    | 0 => .here
    | 2 => .doubleRoot
    | _ => .root
  parts := (t.splitOn '/').filter fun part => !part.isEmpty && part != ['.']

def toText (p : Path) : Text :=
  match p.anchor, p.parts with
  | .here, [] => ['.']
  | anchor, parts => anchor.text ++ Text.joinWith ['/'] parts

def isPassable (p : Path) : Bool := p.parts.all Text.isPassable

/-- Continues a path; one that does not start here replaces it. -/
def append (p q : Path) : Path :=
  match q.anchor with
  | .here => { p with parts := p.parts ++ q.parts }
  | _ => q

instance : HDiv Path Path Path := ⟨append⟩

def child (p : Path) (part : Text) : Path := { p with parts := p.parts ++ [part] }

def parent (p : Path) : Path := { p with parts := p.parts.dropLast }

def name (p : Path) : Text := p.parts.getLast?.getD []

/-- The extension of a file name is what follows its last dot, dot included, if neither side of the
dot is empty. The two halves are the name without its extension and the extension. -/
def splitExtension (name : Text) : Text × Text :=
  let after := name.reverse.takeWhile (· ≠ '.')
  match name.reverse.dropWhile (· ≠ '.') with
  | _ :: before =>
    if before.isEmpty || after.isEmpty then (name, []) else (before.reverse, '.' :: after.reverse)
  | [] => (name, [])

def stem (p : Path) : Text := (splitExtension p.name).1

def extension (p : Path) : Text := (splitExtension p.name).2

/-- Adds a component on top of the components so far, topmost first; `..` takes one away. -/
def climb (above : List Text) (part : Text) : List Text :=
  if part = ['.', '.'] then above.tail else part :: above

/-- The path seen from the current directory, with each `..` resolved by the components alone. -/
def normal (p current : Path) : Path :=
  let full := current / p
  { full with parts := (full.parts.foldl climb []).reverse }

/-- The path as seen from the base. A path that is not below the base is shown by its name alone. -/
def relativeText (p current : Path) : Option Path → Text
  | none => p.toText
  | some base =>
    let full := (p.normal current).toText
    let above := (base.normal current).toText ++ ['/']
    if above.isPrefixOf full then full.drop above.length else p.name

end Path

end LinkAudit
