import LinkAudit.Text.Basic

/-!
White space and line breaks. The white-space characters are those of Unicode together with the four
information separators; the line breaks are the characters that end a line of running text.
-/

namespace LinkAudit.Text

def isBlank (c : Char) : Bool :=
  let n := c.toNat
  (0x9 ≤ n && n ≤ 0xD) || (0x1C ≤ n && n ≤ 0x20) || n == 0x85 || n == 0xA0 || n == 0x1680 ||
    (0x2000 ≤ n && n ≤ 0x200A) || n == 0x2028 || n == 0x2029 || n == 0x202F || n == 0x205F ||
    n == 0x3000

def isLineBreak (c : Char) : Bool :=
  c ∈ ['\n', '\r', '\x0b', '\x0c', '\x1c', '\x1d', '\x1e', '\u0085', '\u2028', '\u2029']

/-- Carries the current line and the finished lines, both reversed. -/
def breakOnto (line : Text) (lines : List Text) : Text → List Text
  | [] => (if line.isEmpty then lines else line.reverse :: lines).reverse
  | '\r' :: '\n' :: rest => breakOnto [] (line.reverse :: lines) rest
  | c :: rest =>
    if isLineBreak c then breakOnto [] (line.reverse :: lines) rest
    else breakOnto (c :: line) lines rest

/-- The lines of a text without their breaks; a carriage return and a line feed together are one
break, and a break at the very end opens no further line. -/
def lines (t : Text) : List Text := breakOnto [] [] t

/-- Carries the result reversed. The flag says that the last character read was a carriage return.
-/
def unifyOnto (done : Text) : Bool → Text → Text
  | _, [] => done.reverse
  | returned, c :: rest =>
    if c = '\r' then unifyOnto ('\n' :: done) true rest
    else if c = '\n' && returned then unifyOnto done false rest
    else unifyOnto (c :: done) false rest

/-- Writes a line feed for each carriage return, with or without a line feed after it. -/
def unifyLineEnds (t : Text) : Text := unifyOnto [] false t

end LinkAudit.Text
