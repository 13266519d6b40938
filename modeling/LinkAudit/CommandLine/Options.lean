import LinkAudit.Text.Digit
import LinkAudit.Text.Quoted

/-!
The options of the command line and how a single argument is recognised as one. A long option may
be shortened as long as no other option starts in the same way, and takes its value after an
equals sign or from the next argument; the value of a short option may also follow it directly.
-/

namespace LinkAudit.CommandLine

inductive Flag where
  | demangle
  | noDemangle
  | includePods
  | verbose
  deriving DecidableEq

inductive Field where
  | debug
  | release
  | root
  | output
  | groupLimit
  | sourcePrefix
  deriving DecidableEq

inductive OptionName where
  | help
  | version
  | flag (f : Flag)
  | field (f : Field)
  deriving DecidableEq

/-- The spellings of the options, in the order in which they are listed in messages. -/
def spellings : List (Text × OptionName) :=
  [("-h", .help), ("--help", .help), ("--debug", .field .debug), ("-d", .field .debug),
   ("--release", .field .release), ("-r", .field .release), ("--project-root", .field .root),
   ("-p", .field .root), ("--out", .field .output), ("--demangle", .flag .demangle),
   ("--no-demangle", .flag .noDemangle), ("--group-limit", .field .groupLimit),
   ("--source-prefix", .field .sourcePrefix), ("--include-pods", .flag .includePods),
   ("--verbose", .flag .verbose), ("--version", .version)].map fun (spelling, name) =>
     (spelling.toList, name)

def OptionName.label (o : OptionName) : Text :=
  Text.joinWith ['/'] ((spellings.filter (·.2 == o)).map (·.1))

inductive UsageError where
  | ambiguous (argument : Text) (candidates : List Text)
  | ignoredValue (o : OptionName) (value : Text)
  | missingValue (o : OptionName)
  | invalidNumber (o : OptionName) (value : Text)
  | unrecognized (arguments : List Text)

def invalidNumberText (value : Text) : Text := "invalid numeric value ".toList ++ value.quoted

def UsageError.message : UsageError → Text
  | .ambiguous argument candidates =>
    "ambiguous option: ".toList ++ argument ++ " could match ".toList ++
      Text.joinWith ", ".toList candidates
  | .ignoredValue o value => about o ("ignored explicit argument ".toList ++ value.quoted)
  | .missingValue o => about o "expected one argument".toList
  | .invalidNumber o value => about o (invalidNumberText value)
  | .unrecognized arguments =>
    "unrecognized arguments: ".toList ++ Text.joinWith [' '] arguments
where
  about (o : OptionName) (complaint : Text) : Text :=
    "argument ".toList ++ o.label ++ ": ".toList ++ complaint

/-- A value in the same argument as its option, after an equals sign or directly. -/
structure Attached where
  afterEquals : Bool
  value : Text

inductive Token where
  | plain
  | separator
  | option (o : OptionName) (short : Bool) (attached : Option Attached)
  | unknownOption

/-- The argument behind which all others are plain. -/
def separatorMark : Text := "--".toList

def exactOption? (t : Text) : Option OptionName := spellings.lookup t

def splitAtEquals (t : Text) : Text × Option Text :=
  match t.dropWhile (· ≠ '=') with
  | _ :: value => (t.takeWhile (· ≠ '='), some value)
  | [] => (t, none)

def isUnsignedNumber (t : Text) : Bool :=
  let body := if t.getLast? = some '\n' then t.dropLast else t
  match body.takeWhile Text.isDecimal, body.dropWhile Text.isDecimal with
  | whole, [] => !whole.isEmpty
  | _, '.' :: places => !places.isEmpty && places.all Text.isDecimal
  | _, _ => false

/-- The options that an argument may mean as a whole or in part, as spelling and meaning. -/
def candidates (argument : Text) : List (Text × Token) :=
  let (start, value) := splitAtEquals argument
  spellings.filterMap fun (spelling, name) =>
    if "--".toList.isPrefixOf argument then
      if start.isPrefixOf spelling then
        some (spelling, .option name false (value.map (⟨true, ·⟩)))
      else none
    else if spelling = argument.take 2 then
      some (spelling, .option name true (some ⟨false, argument.drop 2⟩))
    else none

/-- Recognises an argument that starts with a dash and is not a spelling of an option. -/
def recognisePart (argument : Text) : Except UsageError Token :=
  match candidates argument with
  | [] =>
    .ok (if isUnsignedNumber argument.tail || argument.contains ' ' then .plain else .unknownOption)
  | [(_, token)] => .ok token
  | several => .error (.ambiguous argument (several.map (·.1)))

def isShort (spelling : Text) : Bool := spelling[1]? != some '-'

/-- Recognises an argument that no separator precedes. -/
def recognise (argument : Text) : Except UsageError Token :=
  if argument = separatorMark then .ok .separator
  else if argument.head? ≠ some '-' then .ok .plain
  else match exactOption? argument with
    | some name => .ok (.option name (isShort argument) none)
    | none =>
      if argument.length = 1 then .ok .plain
      else
        let (start, value) := splitAtEquals argument
        match value, exactOption? start with
        | some value, some name => .ok (.option name (isShort start) (some ⟨true, value⟩))
        | _, _ => recognisePart argument

/-- Recognises arguments in order. Behind a separator all are plain. -/
def recogniseAll : List Text → Except UsageError (List (Text × Token))
  | [] => .ok []
  | argument :: rest => do
    match ← recognise argument with
    | .separator => return (argument, .separator) :: rest.map ((·, .plain))
    | token => return (argument, token) :: (← recogniseAll rest)

end LinkAudit.CommandLine
