/-!
Membership in a character class that is given by ranges of code points, both ends included. The
classes are those of Unicode 17.
-/

namespace Sexpr.Unicode

def inRanges (ranges : List (Nat × Nat)) (n : Nat) : Bool :=
  ranges.any fun r => Nat.ble r.1 n && Nat.ble n r.2

end Sexpr.Unicode
