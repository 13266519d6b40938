import LinkAudit.CommandLine.Run

/-!
The program. It reads the link maps that its arguments and variables name, and where a project is
given it reads the paths of the project's files from its standard input, one on a line, as a file
finder prints them. It starts no other program, so that every batch of names fails to be
demangled.
-/

namespace LinkAudit.CommandLine

/-- The variables that a run looks at, those that count inputs aside. -/
def variableNames : List String :=
  ["DEBUG_LINKMAP", "RELEASE_LINKMAP", "PROJECT_DIR", "DEAD_CODE_OUTPUT", "DEAD_CODE_DEMANGLE",
   "DEAD_CODE_GROUP_LIMIT", "DEAD_CODE_VERBOSE", "DEAD_CODE_SOURCE_PREFIXES",
   "SCRIPT_INPUT_FILE_COUNT"]

def getVariables (names : List String) : IO Environment :=
  names.filterMapM fun name => do
    return (← IO.getEnv name).map fun value => (name.toList, value.toList)

def getEnvironment : IO Environment := do
  let named ← getVariables variableNames
  let count := (named.value? "SCRIPT_INPUT_FILE_COUNT").bind positive?
  let inputs := (List.range (count.getD 0)).map fun i => "SCRIPT_INPUT_FILE_" ++ toString i
  return named ++ (← getVariables inputs)

def addReadable (tree : FileTree) (name : Text) : IO FileTree := do
  try
    let content ← IO.FS.readBinFile (String.ofList name)
    return tree.place (Path.ofText name) content.toList
  catch _ => return tree

partial def readListing (input : IO.FS.Stream) (paths : List Path) : IO (List Path) := do
  let line ← input.getLine
  if line.isEmpty then return paths.reverse
  let name := Text.trimEnd line.toList fun c => c = '\n' || c = '\r'
  readListing input (Path.ofText name :: paths)

def mapNames (a : Arguments) (e : Environment) : List Text :=
  a.maps ++ [a.debug, a.release, e.value? "DEBUG_LINKMAP", e.value? "RELEASE_LINKMAP"].filterMap id

def getTree (a : Arguments) (e : Environment) : IO FileTree := do
  let here := Path.ofText (((← IO.getEnv "PWD").getD "/").toList)
  let bare : FileTree := { root := .empty, current := [] }
  let start : FileTree :=
    { (bare.makeDirectories here).toOption.getD bare with current := here.parts }
  let tree ← (mapNames a e).foldlM addReadable start
  if (firstGiven [a.root, e.value? "PROJECT_DIR"]).isNone then return tree
  let listed ← readListing (← IO.getStdin) []
  let add (tree : FileTree) (path : Path) : FileTree :=
    if tree.exists? path then tree else tree.place path []
  return listed.foldl add tree

def emit (o : Outcome) : IO UInt32 := do
  for entry in o.log do
    IO.eprintln (String.ofList entry.text)
  IO.print (String.ofList o.printed)
  match o.ending with
  | .complete => pure ()
  | .usage e => IO.eprintln (String.ofList e.line)
  | .failure f => IO.eprintln (String.ofList f.message)
  | .breakdown b => IO.eprintln (String.ofList b.message)
  return UInt32.ofNat o.ending.status

def saveReport (o : Outcome) (path : Path) : IO Unit := do
  match o.ending, o.tree.read path with
  | .complete, .ok content =>
    IO.FS.createDirAll (String.ofList path.parent.toText)
    IO.FS.writeBinFile (String.ofList path.toText) ⟨content.toArray⟩
  | _, _ => pure ()

def conventions : Conventions := { dropsSeparators := true, leavesLetters := false }

def noTool : Demangler.Tool := fun _ => .launchFailed "no programs are started".toList

def runHere (arguments : List Text) : IO UInt32 := do
  let environment ← getEnvironment
  let tree ← match read conventions arguments with
    | .ok (.compare a) => getTree a environment
    | _ => pure { root := .empty, current := [] }
  let here : Surroundings := { conventions, environment, tree }
  match here.prepare arguments with
  | .error outcome => emit outcome
  | .ok prepared =>
    let outcome := prepared.finish here.shows noTool tree
    let status ← emit outcome
    if let some path := prepared.config.output then saveReport outcome path
    return status

end LinkAudit.CommandLine

def main (arguments : List String) : IO UInt32 :=
  LinkAudit.CommandLine.runHere (arguments.map String.toList)
