import LinkAudit.Text.Blank
import Std.Data.TreeMap

/-!
The output of a demangler. A line with the separator gives a mangled name and the text for it;
further lines up to an empty one continue the text. The last entry for a name with a text is the
one that counts.
-/

namespace LinkAudit.Demangler

abbrev Texts := Std.TreeMap Text Text

/-- What stands between a mangled name and its text. -/
def separator : Text := " ---> ".toList

/-- What has been read: the name of the open entry, the pieces of its text with the last one first,
and the finished entries. -/
structure OutputReading where
  current : Option Text
  pieces : List Text
  found : Texts

namespace OutputReading

def start : OutputReading := ⟨none, [], ∅⟩

/-- Finishes the open entry. An entry without text leaves nothing. -/
def close (r : OutputReading) : OutputReading :=
  match r.current with
  | none => { r with pieces := [] }
  | some name =>
    let text := r.pieces.reverse.flatten
    ⟨none, [], if text.isEmpty then r.found else r.found.insert name text⟩

def line (r : OutputReading) (l : Text) : OutputReading :=
  if l.isEmpty then r.close
  else match l.position? separator with
    | some n =>
      { r.close with
        current := Text.nonempty? (Text.trimBlanks (l.take n))
        pieces := [Text.trimBlanks (l.drop (n + separator.length))] }
    | none =>
      if r.current.isSome then { r with pieces := Text.trimBlanks l :: r.pieces } else r

end OutputReading

def readOutput (output : Text) : Texts :=
  ((output.lines).foldl OutputReading.line .start).close.found

end LinkAudit.Demangler
