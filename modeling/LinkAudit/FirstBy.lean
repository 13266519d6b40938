import Std.Data.TreeSet

/-!
The elements of a list that are the first with their key, in the order of the list.
-/

namespace LinkAudit

variable {α κ : Type} [Ord κ]

/-- Carries the keys seen and the elements taken, the last one first. -/
def firstByOnto (key : α → κ) (seen : Std.TreeSet κ) (taken : List α) : List α → List α
  | [] => taken.reverse
  | a :: rest =>
    if seen.contains (key a) then firstByOnto key seen taken rest
    else firstByOnto key (seen.insert (key a)) (a :: taken) rest

def firstBy (key : α → κ) (l : List α) : List α := firstByOnto key ∅ [] l

end LinkAudit
