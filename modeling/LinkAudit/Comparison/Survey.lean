import LinkAudit.Comparison.Release
import LinkAudit.FirstBy

/-!
The survey of a debug build against a release build: which symbols only the debug build has, which
of them belong to the project, and what is known about their sources. It ends where names would be
demangled.
-/

namespace LinkAudit

abbrev HintedSymbol := Symbol × SourceHint

/-- Whether the name's module, if it has one, is among the modules. No modules stand for all
modules. -/
def isInModules (modules : List Text) (name : Text) : Bool :=
  match moduleOf? name with
  | none => true
  | some home => modules.isEmpty || modules.contains home

/-- Sources are required of symbols and files once more than this many objects are found in the
index. -/
def sourceThreshold : Nat := 8

def indexedCount (project : Project) (debug : LinkMap) : Nat :=
  debug.objects.toList.countP fun o => !o.isForeign && o.stems.any project.index.contains

/-- The first symbols of their names, as far as their objects belong to the project. -/
def attributed (debug : LinkMap) (raw : List Symbol) : List Symbol :=
  (firstBy (·.name) raw).filter fun s => !isIgnored (debug.objectOf? s)

structure Survey where
  project : Project
  debug : LinkMap
  release : ReleaseSide
  releaseCount : Nat
  /-- The modules of the debug build. -/
  modules : List Text
  /-- The debug symbols of these modules. -/
  considered : List Symbol
  /-- Those whose names the release does not keep. -/
  raw : List Symbol
  /-- Whether symbols and files need a source to be reported. -/
  needsSource : Bool
  /-- The attributed symbols that have the source they need. -/
  hinted : List HintedSymbol

namespace Survey

def ofMaps (project : Project) (debug release : LinkMap) : Survey :=
  let modules := Modules.ofProject debug
  let side := ReleaseSide.ofMap release project.tree.here
  let considered := debug.symbols.filter fun s => isInModules modules s.name
  let raw := considered.filter fun s => !side.keptNames.contains s.name
  let needsSource := sourceThreshold < indexedCount project debug
  { project
    debug
    release := side
    releaseCount := release.symbols.length
    modules
    considered
    raw
    needsSource
    hinted :=
      ((attributed debug raw).map fun s =>
        (s, project.hint (debug.objectOf? s) (project.literalHint? s.name))).filter fun s =>
          !needsSource || s.2.hasSource }

def displayModules (v : Survey) : List Text := Modules.common (v.hinted.map (·.1.name))

def isKept (v : Survey) (s : HintedSymbol) : Bool :=
  isReportable Mangled.reportableKinds v.modules s.1.name

/-- The symbols that stay unless their demangled texts are noise. -/
def survivors (v : Survey) : List HintedSymbol := v.hinted.filter v.isKept

/-- The names to demangle, none if nothing has to be demangled. -/
def question? (v : Survey) (demangles : Bool) : Option (List Text) :=
  let names := v.survivors.map (·.1.name)
  if demangles && !names.isEmpty then some names else none

/-- The project as the rest of the comparison finds it, in the tree that the demangler leaves. -/
def revisited (v : Survey) (tree : FileTree) : Project :=
  v.project.revisited ((attributed v.debug v.raw).filterMap v.debug.objectOf?) tree

end Survey

end LinkAudit
