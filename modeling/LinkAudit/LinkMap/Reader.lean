import LinkAudit.LinkMap
import LinkAudit.Text.Digit

/-!
Reading the text of a link map. Header lines divide it into sections; in the sections for objects
and for symbols a line counts if an entry of the section's form stands anywhere in it, and the
leftmost entry is taken. The listing of dead-stripped symbols ends the reading. An entry whose object
number has too many digits makes the whole text unreadable.
-/

namespace LinkAudit.LinkMap

inductive Section where
  | preamble
  | objects
  | sections
  | symbols
  deriving DecidableEq

inductive Heading where
  | opens (s : Section)
  | ends
  | none

def heading (line : Text) : Heading :=
  if "# Object files:".toList.isPrefixOf line then .opens .objects
  else if "# Sections:".toList.isPrefixOf line then .opens .sections
  else if "# Symbols:".toList.isPrefixOf line then .opens .symbols
  else if "# Dead Stripped Symbols:".toList.isPrefixOf line then .ends
  else .none

/-- The rest of a line after at least one blank. Where nothing else is left, the last of several
blanks is the rest. Carriage returns at the end do not count. -/
def field? (t : Text) : Option Text :=
  let blanks := t.takeWhile Text.isBlank
  let rest : Text := t.dropWhile Text.isBlank
  if blanks.isEmpty then none
  else if !rest.isEmpty then some (rest.trimEnd (· = '\r'))
  else if 2 ≤ blanks.length then blanks.getLast?.map fun c => Text.trimEnd [c] (· = '\r')
  else none

/-- The digits in brackets at the front of the text, with what follows them. -/
def bracketed? : Text → Option (Text × Text)
  | '[' :: rest =>
    let inside := rest.dropWhile Text.isBlank
    let digits := inside.takeWhile Text.isDecimal
    match inside.dropWhile Text.isDecimal with
    | ']' :: after => if digits.isEmpty then none else some (digits, after)
    | _ => none
  | _ => none

/-- A hexadecimal number at the front of the text, with what follows the blanks after it. -/
def hexField? : Text → Option (Nat × Text)
  | '0' :: 'x' :: rest =>
    let digits := rest.takeWhile Text.isHex
    let after := rest.dropWhile Text.isHex
    if digits.isEmpty || (after.takeWhile Text.isBlank).isEmpty then none
    else some (Text.hexValue digits, after.dropWhile Text.isBlank)
  | _ => none

/-- An entry, with the digits that its object number is written in. -/
structure Numbered (α : Type) where
  digits : Text
  entry : α
  deriving DecidableEq

def objectHere? (t : Text) : Option (Numbered ObjectFile) := do
  let (digits, after) ← bracketed? t
  let path ← field? after
  return ⟨digits, { index := Text.decimalValue digits, path }⟩

def symbolHere? (t : Text) : Option (Numbered Symbol) := do
  let (address, afterAddress) ← hexField? t
  let (size, afterSize) ← hexField? afterAddress
  let (digits, after) ← bracketed? afterSize
  let name ← field? after
  return ⟨digits, { address, size, objectIndex := Text.decimalValue digits, name }⟩

def leftmost? {α : Type} (here? : Text → Option α) : Text → Option α
  | [] => here? []
  | c :: rest => here? (c :: rest) <|> leftmost? here? rest

/-- What has been read: the current section, the objects, the symbols with the last one first, and
how many digits the first number has that has too many. -/
structure Reading where
  current : Section
  objects : ObjectTable
  symbols : List Symbol
  overlong : Option Nat

namespace Reading

def start : Reading := ⟨.preamble, .empty, [], none⟩

def addObject (r : Reading) (o : Numbered ObjectFile) : Reading :=
  { r with
    objects := r.objects.insert o.entry
    overlong := r.overlong <|> Text.overlong? o.digits }

def addSymbol (r : Reading) (s : Numbered Symbol) : Reading :=
  { r with
    symbols := s.entry :: r.symbols
    overlong := r.overlong <|> Text.overlong? s.digits }

def entry (r : Reading) (line : Text) : Reading :=
  match r.current with
  | .objects =>
    match leftmost? objectHere? line with
    | some o => r.addObject o
    | none => r
  | .symbols =>
    match leftmost? symbolHere? line with
    | some s => r.addSymbol s
    | none => r
  | _ => r

/-- Reads lines up to the end or to the dead-stripped symbols. -/
def lines (r : Reading) : List Text → Reading
  | [] => r
  | line :: rest =>
    match heading line with
    | .opens s => lines { r with current := s } rest
    | .ends => r
    | .none => lines (r.entry line) rest

def linkMap (r : Reading) (lineCount : Nat) : LinkMap := ⟨r.objects, r.symbols.reverse, lineCount⟩

end Reading

/-- What a text says, with numbers of any length. -/
def ofText (t : Text) : LinkMap :=
  let lines := t.splitOn '\n'
  (Reading.start.lines lines).linkMap lines.length

structure OverlongNumber where
  digitCount : Nat
  deriving DecidableEq

/-- Reads a text, unless one of its numbers has too many digits. -/
def parse (t : Text) : Except OverlongNumber LinkMap :=
  let lines := t.splitOn '\n'
  let reading := Reading.start.lines lines
  match reading.overlong with
  | some digitCount => .error ⟨digitCount⟩
  | none => .ok (reading.linkMap lines.length)

theorem parse_eq (t : Text) :
    parse t = match (Reading.start.lines (t.splitOn '\n')).overlong with
      | some digitCount => .error ⟨digitCount⟩
      | none => .ok (ofText t) :=
  rfl

end LinkAudit.LinkMap
