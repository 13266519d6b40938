import LinkAudit.Modules
import LinkAudit.Source.Hint

/-!
The release side of a comparison: what of the release build has to be known in order to tell
whether a symbol or an object of the debug build is missing from it. Nothing of it is looked up by
object number.
-/

namespace LinkAudit

def ObjectFile.normalPath (o : ObjectFile) (current : Path) : Text :=
  ((Path.ofText o.path).normal current).toText

structure ReleaseSide where
  keptNames : Std.TreeSet Text
  paths : Std.TreeSet Text
  baseNames : Std.TreeSet Text
  /-- The names of all symbols, each on a line of its own. -/
  allNames : Text

namespace ReleaseSide

/-- Tabulates a release build. The names it keeps are judged by its own modules. -/
def ofMap (release : LinkMap) (current : Path) : ReleaseSide :=
  let names := release.symbols.map (·.name)
  let objects := release.objects.toList
  { keptNames :=
      .ofList (names.filter (isReportable Mangled.reportableKinds (Modules.ofProject release)))
    paths := .ofList (objects.map (·.normalPath current))
    baseNames := .ofList (objects.map (·.baseName))
    allNames := Text.joinWith ['\n'] names }

/-- Whether the release has an object of the same normal path or of the same name. -/
def hasObject (r : ReleaseSide) (o : ObjectFile) (current : Path) : Bool :=
  r.paths.contains (o.normalPath current) || r.baseNames.contains o.baseName

def asSegment (stem : Text) : Text := Text.ofNat stem.length ++ stem

def asClass (stem : Text) : Text := '[' :: stem ++ [' ']

/-- Whether the shortest stem of the object's path is found in the text of the release's names, as a
segment or as the class of a method. -/
def mentions (r : ReleaseSide) (objectPath : Text) : Bool :=
  match (ObjectFile.stemsOf objectPath).getLast? with
  | none => false
  | some stem => r.allNames.mentions (asSegment stem) || r.allNames.mentions (asClass stem)

end ReleaseSide

end LinkAudit
