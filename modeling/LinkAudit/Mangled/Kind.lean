import LinkAudit.Mangled
import LinkAudit.Text.Case
import LinkAudit.Text.Digit

/-!
Kind codes. The suffix of a mangled name ends in upper-case letters that tell which kind of
declaration it names; behind them may stand terminators and a counter that sets apart copies of
one declaration.
-/

namespace LinkAudit.Mangled

def terminator : Char := 'Z'

def dropCounterAtEnd (t : Text) : Text :=
  let digits := t.reverse.takeWhile Text.isDecimal
  match digits, t.reverse.dropWhile Text.isDecimal with
  | _ :: _, '.' :: before => before.reverse
  | _, _ => t

/-- Drops a counter, which stands at the end or before a line feed at the end. -/
def dropCounter (t : Text) : Text :=
  if t.getLast? = some '\n' then dropCounterAtEnd t.dropLast ++ ['\n'] else dropCounterAtEnd t

/-- The trailing upper-case letters, or everything if there are none. -/
def upperTail (t : Text) : Text :=
  let tail := (t.reverse.takeWhile Text.isUpper).reverse
  if tail.isEmpty then t else tail

def kindCode (suffix : Text) : Text := upperTail ((dropCounter suffix).trimEnd (· = terminator))

/-- The kind codes of declarations worth reporting, in capitals. The codes of witness tables and
metadata are among them because those are linked only where their type or conformance is used. -/
def reportableKinds : List Text :=
  ["F", "FC", "FD", "FE", "FG", "FH", "FZ", "FY", "FYA", "FYD", "FYT", "FYTA", "FYZ", "FQ", "FT",
   "FTZ", "FCY", "FCZ", "FCF", "FYQ", "FCQ", "TF", "TFZ", "VP", "TW", "WL", "MN", "MF", "AAMA",
   "WXX", "WCPTM", "WCA"].map String.toList

end LinkAudit.Mangled
