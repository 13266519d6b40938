import LinkAudit.Text.Basic
import LinkAudit.Text.PrintTable

/-!
Quoted text, as error messages show it: between single quotes, or between double quotes when the
text has a single quote and no double one. Backslashes, the enclosing quote and characters without
a printed form are escaped.
-/

namespace LinkAudit.Text

def isPrintable (c : Char) : Bool :=
  if c.toNat < 128 then 0x20 ≤ c.toNat && c.toNat ≤ 0x7E
  else !PrintTable.unprintable.any (·.has c.toNat)

def hexOfWidth (width n : Nat) : Text :=
  let digits := Nat.toDigits 16 n
  List.replicate (width - digits.length) '0' ++ digits

def escapeChar (quote c : Char) : Text :=
  if c = quote || c = '\\' then ['\\', c]
  else if c = '\n' then ['\\', 'n']
  else if c = '\r' then ['\\', 'r']
  else if c = '\t' then ['\\', 't']
  else if isPrintable c then [c]
  else if c.toNat ≤ 0xFF then '\\' :: 'x' :: hexOfWidth 2 c.toNat
  else if c.toNat ≤ 0xFFFF then '\\' :: 'u' :: hexOfWidth 4 c.toNat
  else '\\' :: 'U' :: hexOfWidth 8 c.toNat

def quoted (t : Text) : Text :=
  let quote := if t.contains '\'' && !t.contains '"' then '"' else '\''
  quote :: t.flatMap (escapeChar quote) ++ [quote]

end LinkAudit.Text
