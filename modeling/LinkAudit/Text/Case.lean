import LinkAudit.Text.Basic
import LinkAudit.Text.CaseTable

/-!
Letter case over all of Unicode. A text is lowered and raised by the full mappings, so that its
length may change, and a capital sigma at the end of a word is lowered to its final form.
-/

namespace LinkAudit.Text

def isUpper (c : Char) : Bool :=
  if c.toNat < 128 then c.isUpper else CaseTable.upperLetters.any (·.has c.toNat)

def isCased (c : Char) : Bool :=
  if c.toNat < 128 then c.isAlpha else CaseTable.cased.any (·.has c.toNat)

/-- Characters that do not count when it is asked whether a cased letter stands before or after. -/
def isCaseIgnorable (c : Char) : Bool :=
  if c.toNat < 128 then c ∈ ['\'', '.', ':', '^', '\x60']
  else CaseTable.ignorable.any (·.has c.toNat)

def lowerChar (c : Char) : Text :=
  if c.toNat < 128 then [c.toLower]
  else if c = '\u0130' then ['i', '\u0307']
  else [((Shift.image? CaseTable.lowerShifts c.toNat).map Char.ofNat).getD c]

/-- Whether the next character that is not ignorable is cased. -/
def casedFollows (t : Text) : Bool :=
  match t.dropWhile isCaseIgnorable with
  | [] => false
  | c :: _ => isCased c

/-- Lowers a text that follows a cased letter, ignorable characters aside, or does not. -/
def lowerAfter : Bool → Text → Text
  | _, [] => []
  | cased, c :: rest =>
    let next := if isCaseIgnorable c then cased else isCased c
    if c = 'Σ' then
      (if cased && !casedFollows rest then 'ς' else 'σ') :: lowerAfter next rest
    else lowerChar c ++ lowerAfter next rest

def lower (t : Text) : Text := lowerAfter false t

def upperChar (c : Char) : Text :=
  if c.toNat < 128 then [c.toUpper]
  else match CaseTable.upperExpansions.lookup c.toNat with
    | some codes => codes.map Char.ofNat
    | none => [((Shift.image? CaseTable.upperShifts c.toNat).map Char.ofNat).getD c]

def upper (t : Text) : Text := t.flatMap upperChar

end LinkAudit.Text
