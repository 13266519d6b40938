import Std.Data.TreeSet

/-!
A text is a list of characters, so that lengths, positions and order all count code points. This
module holds the searches, cuts and substitutions that the rest of the library is written with.
-/

namespace LinkAudit

abbrev Text := List Char

namespace Text

def nonempty? (t : Text) : Option Text := if t.isEmpty then none else some t

/-- Whether the text can be handed to the system, which takes a null character for its end. -/
def isPassable (t : Text) : Bool := !t.contains '\x00'

theorem nonempty?_ne_some_nil (t : Text) : nonempty? t ≠ some [] := by
  cases t <;> simp [nonempty?]

theorem nonempty?_of_ne_nil {t : Text} (h : t ≠ []) : nonempty? t = some t := by
  simp [nonempty?, h]

@[simp] theorem getD_nonempty? (t : Text) : (nonempty? t).getD [] = t := by
  cases t <;> rfl

def mentions : Text → Text → Bool
  | [], needle => needle.isEmpty
  | c :: rest, needle => needle.isPrefixOf (c :: rest) || mentions rest needle

/-- The number of characters before the first occurrence of `needle`. -/
def position? : Text → Text → Option Nat
  | [], needle => if needle.isEmpty then some 0 else none
  | c :: rest, needle =>
    if needle.isPrefixOf (c :: rest) then some 0 else (position? rest needle).map (· + 1)

def fromFirst? : Text → Text → Option Text
  | [], needle => if needle.isEmpty then some [] else none
  | c :: rest, needle =>
    if needle.isPrefixOf (c :: rest) then some (c :: rest) else fromFirst? rest needle

/-- One pass from the left that writes `fresh` for every stretch to which `width` gives a positive
length. The number argument counts the characters of the current stretch that are still to be passed
over. -/
def substituteFrom (width : Text → Nat) (fresh : Text) : Nat → Text → Text
  | _, [] => []
  | skip + 1, _ :: rest => substituteFrom width fresh skip rest
  | 0, c :: rest =>
    match width (c :: rest) with
    | 0 => c :: substituteFrom width fresh 0 rest
    | n + 1 => fresh ++ substituteFrom width fresh n rest

def substitute (t : Text) (width : Text → Nat) (fresh : Text) : Text :=
  substituteFrom width fresh 0 t

/-- Writes `fresh` for the occurrences of `old`, found from the left and without overlap. -/
def replace (t old fresh : Text) : Text :=
  t.substitute (fun here => if old.isPrefixOf here then old.length else 0) fresh

def trimEnd (t : Text) (drops : Char → Bool) : Text := (t.reverse.dropWhile drops).reverse

def trim (t : Text) (drops : Char → Bool) : Text := trimEnd (t.dropWhile drops) drops

def trimBlanks (t : Text) : Text := t.trim fun c => c = ' ' || c = '\t'

/-- Carries the current piece and the finished pieces, both reversed. -/
def splitOnto (separator : Char) (piece : Text) (pieces : List Text) : Text → List Text
  | [] => (piece.reverse :: pieces).reverse
  | c :: rest =>
    if c = separator then splitOnto separator [] (piece.reverse :: pieces) rest
    else splitOnto separator (c :: piece) pieces rest

/-- The pieces between the separators: always one more than there are separators. -/
def splitOn (t : Text) (separator : Char) : List Text := splitOnto separator [] [] t

def joinWith (separator : Text) (pieces : List Text) : Text := separator.intercalate pieces

def le (a b : Text) : Bool := (compare a b).isLE

/-- The distinct texts of a list in increasing order. -/
def distinct (ts : List Text) : List Text := (Std.TreeSet.ofList ts).toList

end Text

end LinkAudit
