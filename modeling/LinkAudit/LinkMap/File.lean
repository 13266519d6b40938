import LinkAudit.FileTree
import LinkAudit.LinkMap.Reader
import LinkAudit.Text.Blank

/-!
Link maps in files. A file has to be well-formed UTF-8; its line ends may be of any kind. Problems
with a file have a message. A path that cannot be handed to the system and a number with too many
digits have none.
-/

namespace LinkAudit.LinkMap

inductive FileProblem where
  | notFound (path : Path)
  | notText (path : Path)
  | unreadable (path : Path) (fault : FileFault)

def FileProblem.message : FileProblem → Text
  | .notFound path => "Link map not found: ".toList ++ path.toText
  | .notText path => "Link map is not valid UTF-8: ".toList ++ path.toText
  | .unreadable path fault =>
    "Unable to read link map ".toList ++ path.toText ++ ": ".toList ++ fault.reason

inductive ReadError where
  | problem (p : FileProblem)
  | nullCharacter
  | overlongNumber (n : OverlongNumber)

def textOfFile (tree : FileTree) (path : Path) : Except FileProblem Text :=
  match tree.read path with
  | .ok bytes =>
    match Text.Utf8.decode? bytes with
    | some text => .ok text.unifyLineEnds
    | none => .error (.notText path)
  | .error .notFound => .error (.notFound path)
  | .error fault => .error (.unreadable path fault)

def ofFile (tree : FileTree) (path : Path) : Except ReadError LinkMap :=
  if path.isPassable then do
    let text ← (textOfFile tree path).mapError .problem
    (parse text).mapError .overlongNumber
  else .error .nullCharacter

end LinkAudit.LinkMap
