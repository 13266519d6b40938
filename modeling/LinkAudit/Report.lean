import LinkAudit.Report.Bytes
import LinkAudit.Report.Diagnostic

/-!
The report on an analysis. Symbols and files are shown in groups, one for each name of a source or
object file, in the order of the lowered names; a group with symbols has a summary and a line for
each symbol, one without has a line for each of its files.
-/

namespace LinkAudit

structure ReportGroup where
  name : Text
  findings : List Finding
  files : List UnusedFile

namespace ReportGroup

/-- Appends the context in the given form, unless it is missing, empty or no more than the name. -/
def explained (g : ReportGroup) (text : Text) (context : Option Text) (form : Text → Text) : Text :=
  match context.bind Text.nonempty? with
  | some context => if context = g.name then text else text ++ form context
  | none => text

/-- By falling size, then by the name shown. -/
def orderInGroup (a b : Finding) : Ordering :=
  (compare b.symbol.size a.symbol.size).then (compare a.displayName b.displayName)

/-- The path in the summary of a group: the first that a symbol has, or else that of the first file.
-/
def headerPath? (c : ReportContext) (g : ReportGroup) : Option Text :=
  let own := g.findings.findSome? fun f =>
    ((Origin.ofFinding f).diagnosticPath? c).bind Text.nonempty?
  own <|> g.files.head?.bind fun file => (Origin.ofFile file).diagnosticPath? c

/-- The summary of a group with symbols. An absolute path is explained as seen from the root. -/
def summary (c : ReportContext) (g : ReportGroup) : Text :=
  let header := g.headerPath? c
  let context := header.map fun path =>
    if ['/'].isPrefixOf path then Origin.relative c (Path.ofText path) else path
  warningLine header (g.explained g.name context (" - ".toList ++ ·))

def fileLine (c : ReportContext) (g : ReportGroup) (file : UnusedFile) : Text :=
  let origin := Origin.ofFile file
  warningLine (origin.diagnosticPath? c)
    (g.explained (g.name ++ " - unused in release".toList) (origin.contextPath? c) fun context =>
      " (".toList ++ context ++ [')'])

def lines (c : ReportContext) (g : ReportGroup) : List Text :=
  if g.findings.isEmpty then g.files.map (g.fileLine c)
  else g.summary c :: g.findings.map (·.line c)

end ReportGroup

namespace Report

/-- The groups of an analysis. The findings of a group are in the order in which they are shown. -/
def groups (c : ReportContext) (a : Analysis) : List ReportGroup :=
  let findings := a.findings.map fun f => ((Origin.ofFinding f).groupName c, f)
  let files := a.files.map fun f => ((Origin.ofFile f).groupName c, f)
  let names := (Text.distinct (findings.map (·.1) ++ files.map (·.1))).mergeSort fun a b =>
    Text.le a.lower b.lower
  names.map fun name =>
    { name
      findings := ((findings.filter (·.1 == name)).map (·.2)).mergeSort fun a b =>
        (ReportGroup.orderInGroup a b).isLE
      files := (files.filter (·.1 == name)).map (·.2) }

def countLine (label : String) (n : Nat) : Text := label.toList ++ ": ".toList ++ Text.ofNat n

def sizedLine? (label : String) (n size : Nat) : Option Text :=
  (Bytes.text? size).map fun text => countLine label n ++ " (".toList ++ text ++ [')']

/-- The overview at the top of a verbose report. There is none if a size is too large to show. -/
def overview? (c : ReportContext) (a : Analysis) : Option (List Text) := do
  let raw ← sizedLine? "Debug-only symbols (raw)" a.rawCount a.rawSize
  let filtered ← sizedLine? "Debug-only symbols (filtered)" a.findings.length a.findingsSize
  return [
    "Debug link map: ".toList ++ c.config.debugMap.toText,
    "Release link map: ".toList ++ c.config.releaseMap.toText,
    countLine "Total debug symbols" a.debugCount,
    countLine "Total release symbols" a.releaseCount,
    raw,
    filtered]

/-- The number of groups that are shown, if that is fewer than there are. -/
def cut? (limit : Int) (count : Nat) : Option Nat :=
  if 0 < limit && limit < count then some limit.toNat else none

def groupedHeader (count : Nat) : Text :=
  "Debug-only symbols grouped by file (".toList ++ Text.ofNat count ++ " total):".toList

def cutNotice (shown : Nat) : Text :=
  "(showing first ".toList ++ Text.ofNat shown ++ " files)".toList

def groupedLines (c : ReportContext) (groups : List ReportGroup) : List Text :=
  match cut? c.config.groupLimit groups.length with
  | some shown =>
    groupedHeader groups.length :: cutNotice shown :: (groups.take shown).flatMap (·.lines c)
  | none => groupedHeader groups.length :: groups.flatMap (·.lines c)

def emptyNotice : Text :=
  "No application-owned debug-only symbols were detected after filtering.".toList

def body (c : ReportContext) (a : Analysis) : List Text :=
  if a.isEmpty then [emptyNotice] else groupedLines c (groups c a)

/-- The report; a verbose one has the overview and an empty line first. Only a size too large to
show leaves no report. -/
def lines? (c : ReportContext) (a : Analysis) : Option (List Text) :=
  if c.config.verbose then (overview? c a).map (· ++ [] :: body c a) else some (body c a)

/-- The text of a report on a screen: each line with its end. -/
def screenText (lines : List Text) : Text := lines.flatMap (· ++ ['\n'])

/-- The text of a report in a file: the lines with line feeds between them and one at the end. -/
def fileText (lines : List Text) : Text := Text.joinWith ['\n'] lines ++ ['\n']

end Report

end LinkAudit
