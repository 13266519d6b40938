import LinkAudit.Text.Digit

/-!
Mangled names. After a lead without digits comes a sequence of items: a decimal length followed by
that many characters is a segment, and a longest stretch without digits where a length could stand
is a run. Reading ends at the first length that is zero or larger than what is left.
-/

namespace LinkAudit

namespace Mangled

/-- The markers that a mangled name begins with, in the order in which they are looked for. -/
def markers : List Text := ["$s".toList, "$S".toList]

def canonical? (name : Text) : Option Text := markers.findSome? name.fromFirst?

inductive Item where
  | segment (text : Text)
  | run (text : Text)
  deriving DecidableEq

def Item.segment? : Item → Option Text
  | .segment text => some text
  | .run _ => none

def Item.run? : Item → Option Text
  | .segment _ => none
  | .run text => some text

def lengthValue (digits : Text) : Nat :=
  digits.foldl (fun n c => 10 * n + (c.toNat - '0'.toNat)) 0

/-- The length that the digits spell, if it is positive and within the room that is left. A length
with more digits than the room, leading zeros aside, is too large and is not computed. -/
def lengthWithin? (digits : Text) (room : Nat) : Option Nat :=
  let significant := digits.dropWhile (· = '0')
  if (Text.ofNat room).length < significant.length then none
  else
    let length := lengthValue significant
    if 0 < length && length ≤ room then some length else none

/-- The items up to the first length that does not fit. -/
def items (t : Text) : List Item :=
  match t with
  | [] => []
  | c :: rest =>
    if c.isDigit then
      let after := rest.dropWhile Char.isDigit
      match lengthWithin? (c :: rest.takeWhile Char.isDigit) after.length with
      | some length => .segment (after.take length) :: items (after.drop length)
      | none => []
    else
      .run (c :: rest.takeWhile (!·.isDigit)) :: items (rest.dropWhile (!·.isDigit))
termination_by t.length
decreasing_by
  · have := (List.dropWhile_sublist (l := rest) Char.isDigit).length_le
    simp only [List.length_drop, List.length_cons]
    omega
  · have := (List.dropWhile_sublist (l := rest) fun c => !c.isDigit).length_le
    simp only [List.length_cons]
    omega

theorem items_cons_of_fits {c : Char} {rest : Text} {length : Nat} (hdigit : c.isDigit = true)
    (h : lengthWithin? (c :: rest.takeWhile Char.isDigit) (rest.dropWhile Char.isDigit).length =
      some length) :
    items (c :: rest) = .segment ((rest.dropWhile Char.isDigit).take length) ::
      items ((rest.dropWhile Char.isDigit).drop length) := by
  rw [items, if_pos hdigit]
  simp only [h]

theorem items_cons_of_misfits {c : Char} {rest : Text} (hdigit : c.isDigit = true)
    (h : lengthWithin? (c :: rest.takeWhile Char.isDigit) (rest.dropWhile Char.isDigit).length =
      none) : items (c :: rest) = [] := by
  rw [items, if_pos hdigit]
  simp only [h]

theorem items_cons_of_not_digit {c : Char} {rest : Text} (hdigit : ¬c.isDigit = true) :
    items (c :: rest) =
      .run (c :: rest.takeWhile (!·.isDigit)) :: items (rest.dropWhile (!·.isDigit)) := by
  rw [items, if_neg hdigit]

end Mangled

/-- A mangled name in its parts. The runs are collected into one suffix. -/
structure Mangled where
  lead : Text
  segments : List Text
  suffix : Option Text
  deriving DecidableEq

namespace Mangled

def ofText (name : Text) : Mangled :=
  let found := items (name.dropWhile (!·.isDigit))
  { lead := name.takeWhile (!·.isDigit)
    segments := found.filterMap Item.segment?
    suffix := Text.nonempty? (found.filterMap Item.run?).flatten }

/-- The part that ends in the kind code: the suffix, or the last segment if there is no suffix. -/
def kindSource? (m : Mangled) : Option Text := m.suffix.bind Text.nonempty? <|> m.segments.getLast?

/-- A lead with this marker names an imported declaration first and its module second. -/
def foreignMarker : Text := "So".toList

def module? (m : Mangled) : Option Text :=
  if m.lead.mentions foreignMarker && 2 ≤ m.segments.length then m.segments[1]?
  else m.segments.head?

end Mangled

def moduleOf? (name : Text) : Option Text :=
  (Mangled.canonical? name).bind fun canonical =>
    (Mangled.ofText canonical).module?.bind Text.nonempty?

end LinkAudit
