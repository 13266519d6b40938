/-!
Character tables are lists of strides: runs of code points at equal distances. A shift is a stride
whose members all lie at the same distance from what they are mapped to.
-/

namespace LinkAudit.Text

structure Stride where
  first : Nat
  last : Nat
  step : Nat

namespace Stride

def has (s : Stride) (n : Nat) : Bool :=
  s.first ≤ n && n ≤ s.last && (n - s.first) % s.step == 0

end Stride

structure Shift where
  range : Stride
  distance : Int

namespace Shift

/-- The image of the code point under the first shift that covers it. -/
def image? (shifts : List Shift) (n : Nat) : Option Nat :=
  (shifts.find? (·.range.has n)).map fun s => (Int.ofNat n + s.distance).toNat

end Shift

end LinkAudit.Text
