import LinkAudit.Comparison.Analysis

/-!
The lines of a report that belong to one symbol or file. Where a path is known a line is a
diagnostic at the top of that file, in the form that editors follow.
-/

namespace LinkAudit

/-- What a report is written from: the configuration and the tree in which its paths are looked up.
-/
structure ReportContext where
  config : Configuration
  tree : FileTree

/-- The paths of a symbol or file: that of its source and that of its object. -/
structure Origin where
  source : Option Path
  objectPath : Option Text

namespace Origin

/-- The origin of a finding. A finding without object takes its source from the hint. -/
def ofFinding (f : Finding) : Origin :=
  match f.owner with
  | none => ⟨if f.hint.hasSource then f.hint.path else none, none⟩
  | some owner => ⟨owner.source, some owner.object.path⟩

def ofFile (f : UnusedFile) : Origin := ⟨f.source, some f.objectPath⟩

def relative (c : ReportContext) (path : Path) : Text := path.relativeText c.tree.here c.config.root

def objectPath? (o : Origin) : Option Text := o.objectPath.bind Text.nonempty?

def groupName (c : ReportContext) (o : Origin) : Text :=
  match o.source, o.objectPath? with
  | some source, _ =>
    let shown := (relative c source).trim Text.isBlank
    if shown.isEmpty then source.name else (Path.ofText shown).name
  | none, some objectPath =>
    ((Text.nonempty? (Path.ofText objectPath).name)).getD "(unknown)".toList
  | none, none => "(unknown)".toList

def contextPath? (c : ReportContext) (o : Origin) : Option Text :=
  match o.source, o.objectPath? with
  | some source, _ => some (relative c source)
  | none, some objectPath => some (relative c (Path.ofText objectPath))
  | none, none => none

/-- The place of an object below the root. An object named without a directory is looked for below
each of the configured prefixes. -/
def belowRoot (c : ReportContext) (root : Path) (objectPath : Text) : Path :=
  let fallback := root / Path.ofText objectPath
  if objectPath.contains '/' then fallback
  else
    let starts := if c.config.sourcePrefixes.isEmpty then [[]] else c.config.sourcePrefixes
    let candidates := starts.map fun start => root / Path.ofText start / Path.ofText objectPath
    (candidates.find? c.tree.exists?).getD fallback

/-- The path for a diagnostic: the source, or else the object. -/
def diagnosticPath? (c : ReportContext) (o : Origin) : Option Text :=
  match o.source, o.objectPath? with
  | some source, _ => some source.toText
  | none, none => none
  | none, some objectPath =>
    if ['/'].isPrefixOf objectPath then some objectPath
    else match c.config.root with
      | none => some objectPath
      | some root => some (belowRoot c root objectPath).toText

end Origin

/-- A message as a warning at the top of the file with the path, or as it is if there is no path. -/
def warningLine (path : Option Text) (message : Text) : Text :=
  match path with
  | none => message
  | some path => path ++ ":1:1: warning: ".toList ++ message

/-- A remark on symbols that serve previews or widgets, by the lowered name. -/
def Finding.note? (f : Finding) : Option Text :=
  let lowered := f.displayName.lower
  if lowered.mentions "previewprovider".toList || lowered.mentions ".previews".toList then
    some "[Preview]".toList
  else if lowered.mentions "widget".toList && lowered.mentions "timelineentry".toList then
    some "[Widget]".toList
  else none

/-- The name of a finding as its line shows it: a linker name loses the underscore at its front. -/
def Finding.shownName (f : Finding) : Text :=
  let name :=
    match f.demangled, f.displayName with
    | none, '_' :: rest => rest
    | _, name => name
  match f.note? with
  | some note => name ++ ' ' :: note
  | none => name

def Finding.line (c : ReportContext) (f : Finding) : Text :=
  match ((Origin.ofFinding f).diagnosticPath? c).bind Text.nonempty? with
  | some path => warningLine (some path) ("   ".toList ++ f.shownName)
  | none => "    ".toList ++ f.shownName

end LinkAudit
