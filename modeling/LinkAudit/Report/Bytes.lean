import LinkAudit.Text.Digit

/-!
Sizes in bytes, as a report shows them: below 1024 as they are, and from there in the largest unit
up to GB of which there is at least one, with one decimal place. Above 53 binary digits a size is
rounded to as many before it is divided; sizes that round to 1024 binary digits or more cannot be
shown.
-/

namespace LinkAudit.Bytes

/-- The quotient, rounded to the nearest integer; a tie goes to the even one. -/
def roundedQuotient (a b : Nat) : Nat :=
  let q := a / b
  let twice := 2 * (a % b)
  if twice < b || (twice == b && q % 2 == 0) then q else q + 1

def precision : Nat := 53

/-- A size from which on nothing can be shown. -/
def limit : Nat := Nat.pow 2 1024

/-- The number with the binary digits beyond the precision rounded away. -/
def toPrecision (n : Nat) : Nat :=
  let unit := Nat.pow 2 (n.log2 + 1 - precision)
  roundedQuotient n unit * unit

/-- The units above one byte with their sizes, the largest first. -/
def units : List (Text × Nat) :=
  [("GB".toList, 1024 * 1024 * 1024), ("MB".toList, 1024 * 1024), ("KB".toList, 1024)]

def tenthsText (tenths : Nat) : Text :=
  Text.ofNat (tenths / 10) ++ ['.'] ++ Text.ofNat (tenths % 10)

/-- The text of a size, unless it is too large to show. -/
def text? : Int → Option Text
  | .negSucc n => some (Text.ofInt (.negSucc n) ++ " B".toList)
  | .ofNat n =>
    let size := toPrecision n
    if limit ≤ size then none
    else match units.find? (·.2 ≤ size) with
      | some (unit, one) => some (tenthsText (roundedQuotient (10 * size) one) ++ ' ' :: unit)
      | none => some (Text.ofNat n ++ " B".toList)

end LinkAudit.Bytes
