import LinkAudit.CommandLine.Options

/-!
Reading the arguments of a run. Options act in the order in which they stand, so that a request
for help is met even where a later argument is wrong. Arguments that are no options are the link
maps, and only the first stretch of them is taken. In two rules parsers of arguments differ from one
release to the next.
-/

namespace LinkAudit.CommandLine

structure Conventions where
  /-- A separator in the same argument as an option is dropped, so that the option is given without
  a value. -/
  dropsSeparators : Bool
  /-- What stands behind the letter for help and is no option is left aside, unless it begins with a
  dash or an equals sign. -/
  leavesLetters : Bool

/-- A limit on the groups of a report as an argument gives it. A separator that is dropped from the
place of the number leaves a limit without one. -/
inductive GivenLimit where
  | number (n : Nat)
  | noNumber
  deriving DecidableEq

structure Arguments where
  maps : List Text := []
  debug : Option Text := none
  release : Option Text := none
  root : Option Text := none
  output : Option Text := none
  demangles : Option Bool := none
  groupLimit : Option GivenLimit := none
  sourcePrefixes : List Text := []
  withDependencies : Bool := false
  verbose : Bool := false

inductive Request where
  | help
  | version
  | compare (arguments : Arguments)

def positive? (t : Text) : Option Nat :=
  match Text.integer? t with
  | some (.ofNat (n + 1)) => some (n + 1)
  | _ => none

namespace Arguments

def setFlag (a : Arguments) : Flag → Arguments
  | .demangle => { a with demangles := some true }
  | .noDemangle => { a with demangles := some false }
  | .includePods => { a with withDependencies := true }
  | .verbose => { a with verbose := true }

def drops (c : Conventions) (value : Text) : Bool := c.dropsSeparators && value = separatorMark

/-- What a value says: nothing, if it is dropped. -/
def said (c : Conventions) (value : Text) : Text := if drops c value then [] else value

def givenLimit? (c : Conventions) (value : Text) : Option GivenLimit :=
  if drops c value then some .noNumber else (positive? value).map .number

def setField (c : Conventions) (a : Arguments) (field : Field) (value : Text) :
    Except UsageError Arguments :=
  match field with
  | .debug => .ok { a with debug := some (said c value) }
  | .release => .ok { a with release := some (said c value) }
  | .root => .ok { a with root := some (said c value) }
  | .output => .ok { a with output := some (said c value) }
  | .groupLimit =>
    match givenLimit? c value with
    | some limit => .ok { a with groupLimit := some limit }
    | none => .error (.invalidNumber (.field .groupLimit) value)
  | .sourcePrefix => .ok { a with sourcePrefixes := a.sourcePrefixes ++ [said c value] }

end Arguments

/-- What is wrong with a character behind the letter for help that is no option. -/
def strayFault (c : Conventions) (stray : Char) (rest : Text) : Option UsageError :=
  if !c.leavesLetters || stray = '-' then some (.ignoredValue .help (stray :: rest))
  else if stray = '=' then some (.ignoredValue .help rest)
  else none

/-- What is wrong with the letters that follow the one for help in its argument. Each of them is a
short option; the first that takes a value has the letters behind it as its value, or else the next
argument, of which the flag says whether it is plain. -/
def lettersFault (c : Conventions) (plainNext : Bool) : Text → Option UsageError
  | [] => some (.ignoredValue .help [])
  | letter :: rest =>
    match exactOption? ['-', letter], rest with
    | none, _ => strayFault c letter rest
    | some .help, [] => none
    | some .help, rest => lettersFault c plainNext rest
    | some name, [] => if plainNext then none else some (.missingValue name)
    | some _, _ => none

/-- What is wrong with the text that is attached to the letter for help. Letters may also follow its
equals sign, unless that counts as one of them. -/
def faultAfterHelp (c : Conventions) (plainNext : Bool) (attached : Attached) : Option UsageError :=
  if c.leavesLetters && attached.afterEquals then strayFault c '=' attached.value
  else lettersFault c plainNext attached.value

inductive Stretch where
  | ahead
  | inside
  | passed
  deriving DecidableEq

/-- What has been read, and the arguments for which there is no use. -/
structure Reading where
  arguments : Arguments := {}
  stretch : Stretch := .ahead
  unused : List Text := []

namespace Reading

def plain (r : Reading) (argument : Text) : Reading :=
  if r.stretch = .passed then { r with unused := r.unused ++ [argument] }
  else
    { r with
      stretch := .inside
      arguments := { r.arguments with maps := r.arguments.maps ++ [argument] } }

/-- The first separator opens or continues a stretch of link maps and is no part of it. -/
def separator (r : Reading) (argument : Text) : Reading :=
  if r.stretch = .passed then r.plain argument else { r with stretch := .inside }

def leaveStretch (r : Reading) : Reading :=
  if r.stretch = .inside then { r with stretch := .passed } else r

def finish (r : Reading) : Except UsageError Request :=
  if r.unused.isEmpty then .ok (.compare r.arguments) else .error (.unrecognized r.unused)

end Reading

def plainNext : List (Text × Token) → Bool
  | (_, .plain) :: _ => true
  | _ => false

def act (c : Conventions) (r : Reading) : List (Text × Token) → Except UsageError Request
  | [] => r.finish
  | (argument, .plain) :: rest => act c (r.plain argument) rest
  | (argument, .separator) :: rest => act c (r.separator argument) rest
  | (argument, .unknownOption) :: rest =>
    act c { r.leaveStretch with unused := r.unused ++ [argument] } rest
  | (_, .option .help true (some attached)) :: rest =>
    match faultAfterHelp c (plainNext rest) attached with
    | some e => .error e
    | none => .ok .help
  | (_, .option .help _ none) :: _ => .ok .help
  | (_, .option .version _ none) :: _ => .ok .version
  | (_, .option (.flag f) _ none) :: rest =>
    act c { r.leaveStretch with arguments := r.arguments.setFlag f } rest
  | (_, .option (.field f) _ (some attached)) :: rest => do
    let arguments ← r.arguments.setField c f attached.value
    act c { r.leaveStretch with arguments } rest
  | (_, .option (.field f) _ none) :: (value, .plain) :: rest => do
    let arguments ← r.arguments.setField c f value
    act c { r.leaveStretch with arguments } rest
  | (_, .option name _ (some attached)) :: _ => .error (.ignoredValue name attached.value)
  | (_, .option name _ none) :: _ => .error (.missingValue name)

/-- Reads the arguments. All of them are recognised before the first one acts. -/
def read (c : Conventions) (arguments : List Text) : Except UsageError Request := do
  act c {} (← recogniseAll arguments)

end LinkAudit.CommandLine
