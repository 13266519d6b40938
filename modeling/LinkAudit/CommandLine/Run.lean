import LinkAudit.CommandLine.Help
import LinkAudit.CommandLine.Settings
import LinkAudit.Demangler.Batch
import LinkAudit.LinkMap.File
import LinkAudit.Report.File

/-!
A run of the command line as a function. From the arguments, the environment, a file tree and a
way to run programs it gives all that the run leaves behind: what it prints, what it logs, how it
ends, and the tree with the report in it. The programs may change the tree. What comes before them
sees the tree as it was, and what comes after them sees the tree that they leave.

What the file tree leaves out is left out here too. The output of a run is never closed or full, its
memory does not run out and nobody interrupts it. Of a report that cannot be written the tree does
not show the directories that were made for it.
-/

namespace LinkAudit.CommandLine

/-- What stops a run with a message. -/
inductive Failure where
  | settings (e : SettingsError)
  | linkMap (problem : LinkMap.FileProblem)
  | report (path : Path) (e : FileError)

def nullMessage : Text := "embedded null byte".toList

def SettingsError.message : SettingsError → Text
  | .unexpectedArgument argument => "Unexpected argument ".toList ++ argument
  | .missingDebugMap => "Missing debug link map path".toList
  | .missingReleaseMap => "Missing release link map path".toList
  | .rootNotADirectory path => "Project root is not a directory: ".toList ++ path.toText
  | .rootOutOfReach e => e.message
  | .rootWithNull => nullMessage
  | .invalidGroupLimit value => "DEAD_CODE_GROUP_LIMIT: ".toList ++ invalidNumberText value

def Failure.message : Failure → Text
  | .settings e => "error: ".toList ++ e.message
  | .linkMap problem => "error: ".toList ++ problem.message
  | .report path e =>
    "error: Unable to write report to ".toList ++ path.toText ++ ": ".toList ++ e.message

def UsageError.line (e : UsageError) : Text := programName ++ ": error: ".toList ++ e.message

/-- What breaks a run off without a message of its own. -/
inductive Breakdown where
  | file (e : FileError)
  | nullCharacter
  | overlongNumber (n : LinkMap.OverlongNumber)
  | sizeTooLarge
  | limitWithoutNumber
  | unshown

def Breakdown.message : Breakdown → Text
  | .file e => e.message
  | .nullCharacter => nullMessage
  | .overlongNumber n =>
    "Exceeds the limit (".toList ++ Text.ofNat Text.digitLimit ++
      " digits) for integer string conversion: value has ".toList ++ Text.ofNat n.digitCount ++
      " digits".toList
  | .sizeTooLarge => "int too large to convert to float".toList
  | .limitWithoutNumber => "'<' not supported between instances of 'int' and 'list'".toList
  | .unshown => "character that cannot be shown".toList

inductive Ending where
  | complete
  | usage (e : UsageError)
  | failure (f : Failure)
  | breakdown (b : Breakdown)

def Ending.status : Ending → Nat
  | .complete => 0
  | .usage _ => 2
  | .failure _ | .breakdown _ => 1

inductive LogLevel where
  | info
  | warning

structure LogEntry where
  level : LogLevel
  text : Text

structure Outcome where
  ending : Ending
  printed : Text
  log : List LogEntry
  tree : FileTree

structure Surroundings where
  conventions : Conventions
  environment : Environment
  tree : FileTree
  /-- The characters that the screen can show. -/
  shows : Char → Bool := fun _ => true

/-- The programs of a system: from a tree and the calls that are made in it, one after the other,
they give the outcome of each call and the tree that is left. -/
abbrev Programs := FileTree → List (List Text) → Demangler.Tool × FileTree

/-- A run up to the point where names are demangled. -/
structure Prepared where
  config : Configuration
  limitHasNumber : Bool
  survey : Survey
  log : List LogEntry

def readEntry (path : Path) (m : LinkMap) : LogEntry :=
  ⟨.info, "Parsed ".toList ++ path.name ++ ": ".toList ++ Text.ofNat m.lineCount ++ " lines".toList⟩

namespace Surroundings

def stop (s : Surroundings) (ending : Ending) (printed : Text) (log : List LogEntry) : Outcome :=
  ⟨ending, printed, log, s.tree⟩

/-- How a run with bad settings ends. A root that cannot even be looked up breaks it off. -/
def settingsEnding : SettingsError → Ending
  | .rootOutOfReach e => .breakdown (.file e)
  | .rootWithNull => .breakdown .nullCharacter
  | e => .failure (.settings e)

def readEnding : LinkMap.ReadError → Ending
  | .problem p => .failure (.linkMap p)
  | .nullCharacter => .breakdown .nullCharacter
  | .overlongNumber n => .breakdown (.overlongNumber n)

def survey (s : Surroundings) (config : Configuration) (limitHasNumber : Bool) :
    Except Outcome Prepared :=
  match LinkMap.ofFile s.tree config.debugMap with
  | .error e => .error (s.stop (readEnding e) [] [])
  | .ok debug =>
    let log := [readEntry config.debugMap debug]
    match LinkMap.ofFile s.tree config.releaseMap with
    | .error e => .error (s.stop (readEnding e) [] log)
    | .ok release =>
      let log := log ++ [readEntry config.releaseMap release]
      match SourceIndex.build s.tree config.withDependencies config.root with
      | .error e => .error (s.stop (.breakdown (.file e)) [] log)
      | .ok index =>
        let project : Project := { tree := s.tree, root := config.root, index }
        .ok ⟨config, limitHasNumber, Survey.ofMaps project debug release, log⟩

def prepare (s : Surroundings) (arguments : List Text) : Except Outcome Prepared :=
  match read s.conventions arguments with
  | .error e => .error (s.stop (.usage e) [] [])
  | .ok .help => .error (s.stop .complete (Report.screenText helpLines) [])
  | .ok .version => .error (s.stop .complete (Report.screenText [versionLine]) [])
  | .ok (.compare a) =>
    match configure s.tree s.environment a with
    | .error e => .error (s.stop (settingsEnding e) [] [])
    | .ok config => s.survey config (a.groupLimit != some .noNumber)

end Surroundings

namespace Prepared

def demangled (p : Prepared) (tool : Demangler.Tool) : Demangler.Yield :=
  match p.survey.question? p.config.demangles with
  | some names => Demangler.demangle tool Demangler.defaultCommand Demangler.batchSize names
  | none => .none

/-- The programs that the rest of the run has to call, with their arguments. -/
def calls (p : Prepared) : List (List Text) :=
  match p.survey.question? p.config.demangles with
  | some names => Demangler.calls Demangler.defaultCommand Demangler.batchSize names
  | none => []

/-- The calls that are made. A program that cannot be started breaks the run off. -/
def callsMade (p : Prepared) : List (List Text) := p.calls.takeWhile Demangler.isStartable

/-- Writes the report to the output file, if there is one. All of it has been printed. -/
def save (p : Prepared) (tree : FileTree) (lines : List Text) (log : List LogEntry) : Outcome :=
  let printed := Report.screenText lines
  match p.config.output with
  | none => ⟨.complete, printed, log, tree⟩
  | some path =>
    match Report.writeFile tree path lines with
    | .ok tree => ⟨.complete, printed, log, tree⟩
    | .error (.file e) => ⟨.failure (.report path e), printed, log, tree⟩
    | .error .nullCharacter => ⟨.breakdown .nullCharacter, printed, log, tree⟩

/-- Prints the report line by line, up to one that the screen cannot show, and saves it. -/
def report (p : Prepared) (shows : Char → Bool) (tree : FileTree) (lines : List Text)
    (log : List LogEntry) : Outcome :=
  if lines.all (·.all shows) then p.save tree lines log
  else ⟨.breakdown .unshown, Report.screenText (lines.takeWhile (·.all shows)), log, tree⟩

/-- Demangles, draws the conclusion and reports it, in the tree that demangling leaves. A limit
without a number matters as soon as there are groups. -/
def finish (p : Prepared) (shows : Char → Bool) (tool : Demangler.Tool) (tree : FileTree) :
    Outcome :=
  let log := p.log ++ (Demangler.warnings tool p.callsMade).map (⟨.warning, ·⟩)
  if p.calls.all Demangler.isStartable then
    let analysis := p.survey.conclude (p.survey.revisited tree) ((p.demangled tool).texts[·]?)
    match Report.lines? ⟨p.config, tree⟩ analysis with
    | some lines =>
      if p.limitHasNumber || analysis.isEmpty then p.report shows tree lines log
      else ⟨.breakdown .limitWithoutNumber, [], log, tree⟩
    | none => ⟨.breakdown .sizeTooLarge, [], log, tree⟩
  else ⟨.breakdown .nullCharacter, [], log, tree⟩

end Prepared

def run (s : Surroundings) (programs : Programs) (arguments : List Text) : Outcome :=
  match s.prepare arguments with
  | .ok prepared =>
    let (tool, tree) := programs s.tree prepared.callsMade
    prepared.finish s.shows tool tree
  | .error outcome => outcome

end LinkAudit.CommandLine
