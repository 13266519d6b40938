import LinkAudit.Text.Blank

/-!
Numbers in text. Decimal digits are read in every script; numbers are written with the ASCII digits.
-/

namespace LinkAudit.Text

/-- The zeros of the decimal digits; the other nine digits of a script follow its zero. -/
def zeros : List Nat :=
  [0x30, 0x660, 0x6F0, 0x7C0, 0x966, 0x9E6, 0xA66, 0xAE6, 0xB66, 0xBE6, 0xC66, 0xCE6, 0xD66, 0xDE6,
   0xE50, 0xED0, 0xF20, 0x1040, 0x1090, 0x17E0, 0x1810, 0x1946, 0x19D0, 0x1A80, 0x1A90, 0x1B50,
   0x1BB0, 0x1C40, 0x1C50, 0xA620, 0xA8D0, 0xA900, 0xA9D0, 0xA9F0, 0xAA50, 0xABF0, 0xFF10, 0x104A0,
   0x10D30, 0x11066, 0x110F0, 0x11136, 0x111D0, 0x112F0, 0x11450, 0x114D0, 0x11650, 0x116C0,
   0x11730, 0x118E0, 0x11950, 0x11C50, 0x11D50, 0x11DA0, 0x16A60, 0x16AC0, 0x16B50, 0x1D7CE,
   0x1D7D8, 0x1D7E2, 0x1D7EC, 0x1D7F6, 0x1E140, 0x1E2F0, 0x1E950, 0x1FBF0]

def decimalDigit? (c : Char) : Option Nat :=
  (zeros.find? fun z => z ≤ c.toNat && c.toNat ≤ z + 9).map (c.toNat - ·)

def isDecimal (c : Char) : Bool := (decimalDigit? c).isSome

def hexDigit? (c : Char) : Option Nat :=
  if '0' ≤ c && c ≤ '9' then some (c.toNat - '0'.toNat)
  else if 'a' ≤ c && c ≤ 'f' then some (c.toNat - 'a'.toNat + 10)
  else if 'A' ≤ c && c ≤ 'F' then some (c.toNat - 'A'.toNat + 10)
  else none

def isHex (c : Char) : Bool := (hexDigit? c).isSome

def value (base : Nat) (digit? : Char → Option Nat) (digits : Text) : Nat :=
  digits.foldl (fun n c => base * n + (digit? c).getD 0) 0

def decimalValue (digits : Text) : Nat := value 10 decimalDigit? digits

/-- The most digits that a decimal number may have, leading zeros included. -/
def digitLimit : Nat := 4300

def overlong? (digits : Text) : Option Nat :=
  if digitLimit < digits.length then some digits.length else none

def hexValue (digits : Text) : Nat := value 16 hexDigit? digits

/-- The digits of a number in which single underscores may stand between digits. -/
def groupedDigits? : Text → Option Text
  | [] => none
  | [c] => if isDecimal c then some [c] else none
  | c :: '_' :: rest => if isDecimal c then (groupedDigits? rest).map (c :: ·) else none
  | c :: rest => if isDecimal c then (groupedDigits? rest).map (c :: ·) else none

/-- White space that may surround a written integer: all but the information separators. -/
def surroundsInteger (c : Char) : Bool :=
  isBlank c && !(0x1C ≤ c.toNat && c.toNat ≤ 0x1F)

def natural? (t : Text) : Option Nat := do
  let digits ← groupedDigits? t
  if (overlong? digits).isSome then none else some (decimalValue digits)

def integer? (t : Text) : Option Int :=
  match t.trim surroundsInteger with
  | '-' :: digits => (natural? digits).map fun n => -Int.ofNat n
  | '+' :: digits => (natural? digits).map Int.ofNat
  | digits => (natural? digits).map Int.ofNat

def ofNat (n : Nat) : Text := Nat.toDigits 10 n

def ofInt : Int → Text
  | .ofNat n => ofNat n
  | .negSucc n => '-' :: ofNat (n + 1)

end LinkAudit.Text
