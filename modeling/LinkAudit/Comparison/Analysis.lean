import LinkAudit.Comparison.Survey
import LinkAudit.Configuration
import LinkAudit.Demangled

/-!
The outcome of a comparison: the symbols and the object files that only the debug build links.
-/

namespace LinkAudit

structure Owner where
  object : ObjectFile
  source : Option Path

/-- A symbol that only the debug build has. -/
structure Finding where
  symbol : Symbol
  owner : Option Owner
  hint : SourceHint
  demangled : Option Text

def Finding.displayName (f : Finding) : Text := f.demangled.getD f.symbol.name

/-- An object file that only the debug build links. -/
structure UnusedFile where
  objectPath : Text
  source : Option Path
  display : Text
  hasSource : Bool

structure Analysis where
  debugCount : Nat
  releaseCount : Nat
  rawCount : Nat
  rawSize : Nat
  filteredCount : Nat
  findings : List Finding
  files : List UnusedFile
  projectModules : List Text
  displayModules : List Text

def Analysis.isEmpty (a : Analysis) : Bool := a.findings.isEmpty && a.files.isEmpty

def Analysis.findingsSize (a : Analysis) : Nat := Symbol.totalSize (a.findings.map (·.symbol))

namespace Finding

/-- By the display of the hint, then by falling size, then by the name shown. -/
def order (a b : Finding) : Ordering :=
  (compare a.hint.display b.hint.display).then <|
    (compare b.symbol.size a.symbol.size).then (compare a.displayName b.displayName)

end Finding

namespace UnusedFile

/-- By the lowered display, then by the object's path. -/
def order (a b : UnusedFile) : Ordering :=
  (compare a.display.lower b.display.lower).then (compare a.objectPath b.objectPath)

def ofObject (objectPath : Text) (hint : SourceHint) : UnusedFile where
  objectPath
  source := if hint.hasSource then hint.path else none
  display := hint.display
  hasSource := hint.hasSource

end UnusedFile

namespace Survey

/-- The finding for a symbol, given the demangled text for its name. Noise gives none. -/
def finding? (v : Survey) (displayModules : List Text) (s : HintedSymbol) (text : Option Text) :
    Option Finding :=
  if text.any Noise.inDemangled then none
  else some
    { symbol := s.1
      owner := (v.debug.objectOf? s.1).map fun object =>
        ⟨object, if s.2.hasSource then s.2.path else none⟩
      hint := s.2
      demangled := text.map (Demangled.clean · displayModules) }

def findings (v : Survey) (text? : Text → Option Text) : List Finding :=
  let displayModules := v.displayModules
  (v.survivors.filterMap fun s => v.finding? displayModules s (text? s.1.name)).mergeSort
    fun a b => (Finding.order a b).isLE

/-- The objects of which the release keeps a symbol. -/
def keptObjects (v : Survey) : Std.TreeSet Nat :=
  .ofList ((v.considered.filter fun s => v.release.keptNames.contains s.name).map (·.objectIndex))

def filesOfFindings (v : Survey) (findings : List Finding) : List (Nat × UnusedFile) :=
  let kept := v.keptObjects
  (firstBy (·.symbol.objectIndex) findings).filterMap fun f =>
    if kept.contains f.symbol.objectIndex then none
    else f.owner.map fun owner =>
      (f.symbol.objectIndex, UnusedFile.ofObject owner.object.path f.hint)

/-- The files of objects none of whose symbols was considered, with the sources that the project has
now. -/
def filesOfIdleObjects (v : Survey) (now : Project) : List UnusedFile :=
  let occupied : Std.TreeSet Nat := .ofList (v.considered.map (·.objectIndex))
  v.debug.objects.toList.filterMap fun o =>
    if occupied.contains o.index || o.isForeign ||
        v.release.hasObject o now.tree.here then none
    else
      let hint := now.hint (some o) none
      if v.needsSource && !hint.hasSource then none else some (UnusedFile.ofObject o.path hint)

def files (v : Survey) (now : Project) (findings : List Finding) : List UnusedFile :=
  ((v.filesOfFindings findings).map (·.2) ++ v.filesOfIdleObjects now)
    |>.filter (fun f => !v.release.mentions f.objectPath)
    |>.mergeSort fun a b => (UnusedFile.order a b).isLE

/-- The analysis that follows from the survey, from the texts for the names asked about, and from
the project as it is once they are known. -/
def conclude (v : Survey) (now : Project) (text? : Text → Option Text) : Analysis :=
  let findings := v.findings text?
  { debugCount := v.debug.symbols.length
    releaseCount := v.releaseCount
    rawCount := v.raw.length
    rawSize := Symbol.totalSize v.raw
    filteredCount := v.hinted.length - v.survivors.length
    findings
    files := v.files now findings
    projectModules := v.modules
    displayModules := v.displayModules }

end Survey

/-- A demangler, as the text it has for each of the names it is asked about. -/
abbrev NameReader := List Text → Text → Option Text

/-- Compares a debug build with a release build, in a tree that does not change meanwhile. The
demangler is asked once, and only where demangling is wanted and a symbol is left. -/
def analyze (project : Project) (demangles : Bool) (reader : NameReader) (debug release : LinkMap) :
    Analysis :=
  let survey := Survey.ofMaps project debug release
  survey.conclude project <|
    match survey.question? demangles with
    | some names => reader names
    | none => fun _ => none

end LinkAudit
