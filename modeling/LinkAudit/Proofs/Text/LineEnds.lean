import LinkAudit.Proofs.Text.Split
import Mathlib.Data.List.Forall2

/-!
Line ends. Writing a carriage return in front of every newline leaves the lines as they are, except
for a carriage return at the end of each line but the last.
-/

namespace LinkAudit.Text

/-- Whether the second line is the first one, perhaps with a carriage return at its end. -/
def MayReturn (line line' : Text) : Prop := line' = line ∨ line' = line ++ ['\r']

end LinkAudit.Text
