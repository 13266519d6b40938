import LinkAudit.CommandLine.Arguments
import LinkAudit.Configuration
import LinkAudit.FileTree
import LinkAudit.Text.Case

/-!
The configuration of a run, from its arguments and from the environment. What the arguments leave
open, or give as an empty text, is taken from the environment.
-/

namespace LinkAudit.CommandLine

abbrev Environment := List (Text × Text)

namespace Environment

def get? (e : Environment) (name : Text) : Option Text := e.lookup name

/-- The value of a variable, unless it is empty. -/
def value? (e : Environment) (name : String) : Option Text :=
  (e.get? name.toList).bind Text.nonempty?

def offValues : List Text := ["0", "false", "no", "off"].map String.toList

/-- A flag, which is on unless it has one of the values that switch it off. -/
def flag (e : Environment) (name : String) (unset : Bool) : Bool :=
  let value := Text.lower (((e.get? name.toList).getD []).trim Text.isBlank)
  if value.isEmpty then unset else !offValues.contains value

end Environment

inductive SettingsError where
  | unexpectedArgument (argument : Text)
  | missingDebugMap
  | missingReleaseMap
  | rootNotADirectory (path : Path)
  | rootOutOfReach (e : FileError)
  | rootWithNull
  | invalidGroupLimit (value : Text)

def firstGiven (candidates : List (Option Text)) : Option Text :=
  candidates.findSome? fun candidate => candidate.bind Text.nonempty?

/-- The directories that build scripts name as the places of their inputs, each once. -/
def inputDirectories (e : Environment) : List Text :=
  match Text.integer? ((e.get? "SCRIPT_INPUT_FILE_COUNT".toList).getD ['0']) with
  | some (.ofNat count) =>
    let names := (List.range count).filterMap fun i => do
      let value ← (e.get? ("SCRIPT_INPUT_FILE_".toList ++ Text.ofNat i)).bind Text.nonempty?
      Text.nonempty? (Path.ofText value).parent.name
    names.eraseDups
  | _ => []

/-- The places below the root where objects are looked for: those of the arguments, or those of a
variable, or else the directories of a build script's inputs. -/
def sourcePrefixes (given : List Text) (e : Environment) : List Text :=
  let given := given.filter (!·.isEmpty)
  if !given.isEmpty then given
  else match e.value? "DEAD_CODE_SOURCE_PREFIXES" with
    | some listed => (listed.splitOn ':').filter (!·.isEmpty)
    | none => inputDirectories e

def absoluteRoot (tree : FileTree) (value : Text) : Path :=
  { (Path.ofText value).normal tree.here with anchor := .root }

def root? (tree : FileTree) : Option Text → Except SettingsError (Option Path)
  | none => .ok none
  | some value =>
    let root := absoluteRoot tree value
    if !Text.isPassable value then .error .rootWithNull
    else match tree.directory? root with
      | .ok (some _) => .ok (some root)
      | .ok none => .error (.rootNotADirectory root)
      | .error fault => .error (.rootOutOfReach ⟨fault, root⟩)

/-- The limit of the arguments, or that of the environment. Zero is no limit. -/
def groupLimit (given : Option GivenLimit) (e : Environment) : Except SettingsError Int :=
  match given, e.value? "DEAD_CODE_GROUP_LIMIT" with
  | some (.number limit), _ => .ok limit
  | some .noNumber, _ => .ok 0
  | none, none => .ok 0
  | none, some value =>
    match positive? value with
    | some limit => .ok limit
    | none => .error (.invalidGroupLimit value)

/-- The link maps: those of the options, or else the plain arguments in order, or else those of the
environment. -/
def linkMaps (a : Arguments) (e : Environment) : Except SettingsError (Path × Path) :=
  let (debug, rest) := takeMap a.debug a.maps
  let (release, rest) := takeMap a.release rest
  match rest, firstGiven [debug, e.value? "DEBUG_LINKMAP"],
      firstGiven [release, e.value? "RELEASE_LINKMAP"] with
  | extra :: _, _, _ => .error (.unexpectedArgument extra)
  | [], none, _ => .error .missingDebugMap
  | [], some _, none => .error .missingReleaseMap
  | [], some debug, some release => .ok (Path.ofText debug, Path.ofText release)
where
  /-- The option's value, or else the first of the plain arguments, which is then used up. -/
  takeMap (option : Option Text) (maps : List Text) : Option Text × List Text :=
    match option.bind Text.nonempty?, maps with
    | some value, maps => (some value, maps)
    | none, first :: maps => (some first, maps)
    | none, [] => (none, [])

def configure (tree : FileTree) (e : Environment) (a : Arguments) :
    Except SettingsError Configuration := do
  let (debugMap, releaseMap) ← linkMaps a e
  let root ← root? tree (firstGiven [a.root, e.value? "PROJECT_DIR"])
  let groupLimit ← groupLimit a.groupLimit e
  return {
    debugMap
    releaseMap
    root
    demangles := a.demangles.getD (e.flag "DEAD_CODE_DEMANGLE" true)
    groupLimit
    output := (firstGiven [a.output, e.value? "DEAD_CODE_OUTPUT"]).map Path.ofText
    verbose := a.verbose || e.flag "DEAD_CODE_VERBOSE" false
    sourcePrefixes := sourcePrefixes a.sourcePrefixes e
    withDependencies := a.withDependencies }

end LinkAudit.CommandLine
