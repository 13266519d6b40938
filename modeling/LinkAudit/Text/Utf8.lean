import LinkAudit.Text.Basic

/-!
UTF-8. The reader yields a character for every well-formed sequence and a fault for every longest
run of bytes that begins a sequence without completing it; what is done with the faults is for the
caller to say.
-/

namespace LinkAudit.Text.Utf8

/-- Where the reader stands inside a sequence: the value so far, the number of bytes still owed, and
the bounds of the next byte. -/
structure Pending where
  value : Nat
  owed : Nat
  low : Nat
  high : Nat

/-- The state after a byte that may begin a longer sequence. -/
def lead? (b : Nat) : Option Pending :=
  if 0xC2 ≤ b && b ≤ 0xDF then some ⟨b - 0xC0, 1, 0x80, 0xBF⟩
  else if b == 0xE0 then some ⟨0, 2, 0xA0, 0xBF⟩
  else if b == 0xED then some ⟨0xD, 2, 0x80, 0x9F⟩
  else if 0xE1 ≤ b && b ≤ 0xEF then some ⟨b - 0xE0, 2, 0x80, 0xBF⟩
  else if b == 0xF0 then some ⟨0, 3, 0x90, 0xBF⟩
  else if 0xF1 ≤ b && b ≤ 0xF3 then some ⟨b - 0xF0, 3, 0x80, 0xBF⟩
  else if b == 0xF4 then some ⟨4, 3, 0x80, 0x8F⟩
  else none

abbrev Reading := Option Pending × List (Option Char)

def start (found : List (Option Char)) (b : Nat) : Reading :=
  if b < 0x80 then (none, some (Char.ofNat b) :: found)
  else match lead? b with
    | some p => (some p, found)
    | none => (none, none :: found)

def step : Reading → UInt8 → Reading
  | (none, found), b => start found b.toNat
  | (some p, found), b =>
    if p.low ≤ b.toNat && b.toNat ≤ p.high then
      let value := p.value * 64 + (b.toNat - 0x80)
      if p.owed ≤ 1 then (none, some (Char.ofNat value) :: found)
      else (some ⟨value, p.owed - 1, 0x80, 0xBF⟩, found)
    else start (none :: found) b.toNat

/-- The characters of the bytes in order, with `none` for each fault. -/
def scan (bytes : List UInt8) : List (Option Char) :=
  match bytes.foldl step (none, []) with
  | (none, found) => found.reverse
  | (some _, found) => (none :: found).reverse

def decode? (bytes : List UInt8) : Option Text := (scan bytes).mapM id

/-- The text of any bytes, with the replacement character for each fault. -/
def decodeLossy (bytes : List UInt8) : Text := (scan bytes).map (·.getD '\uFFFD')

def encode (t : Text) : List UInt8 := t.flatMap String.utf8EncodeChar

def size (t : Text) : Nat := t.foldr (fun c n => c.utf8Size + n) 0

end LinkAudit.Text.Utf8
