import Sexpr.Decimal

/-!
The shortest decimal that reads back as a given binary number. The reals that are nearest to the
number form a window; the coarsest power of ten with a multiple in the window gives the fewest
digits, and of two multiples the one nearer to the number is taken, on a tie the greater one.
-/

namespace Sexpr

structure Binary where
  significand : Nat
  exponent : Int
deriving DecidableEq

/-- The reals that round to a binary number, their ends and the number itself being numerators over
one denominator. -/
structure Window where
  low : Nat
  value : Nat
  high : Nat
  denominator : Nat
  /-- Whether the ends round to the number too. -/
  closed : Bool

namespace Window

/-- Half-way to both neighbours. `atPower` says that the number is the least of its binade, so that
the neighbour below is twice as near. -/
def ofBinary (b : Binary) (atPower : Bool) : Window :=
  let up := (b.exponent - 2).toNat
  { low := (4 * b.significand - if atPower then 1 else 2) <<< up
    value := (4 * b.significand) <<< up
    high := (4 * b.significand + 2) <<< up
    denominator := 1 <<< (2 - b.exponent).toNat
    closed := b.significand % 2 == 0 }

def contains (w : Window) (d : Decimal) : Bool :=
  let scale := Nat.pow 10 (-d.exponent).toNat
  let x := d.coefficient * Nat.pow 10 d.exponent.toNat * w.denominator
  if w.closed then w.low * scale ≤ x && x ≤ w.high * scale
  else w.low * scale < x && x < w.high * scale

def nearestMultiple? (w : Window) (power : Int) : Option Decimal :=
  let numerator := w.value * Nat.pow 10 (-power).toNat
  let denominator := w.denominator * Nat.pow 10 power.toNat
  let below : Decimal := ⟨numerator / denominator, power⟩
  let above : Decimal := ⟨numerator / denominator + 1, power⟩
  match w.contains below, w.contains above with
  | true, true => some (if 2 * (numerator % denominator) < denominator then below else above)
  | true, false => some below
  | false, true => some above
  | false, false => none

def coarsest? (w : Window) : Nat → Int → Option Decimal
  | 0, _ => none
  | n + 1, power => (w.nearestMultiple? power).or (w.coarsest? n (power - 1))

end Window

namespace Binary

def exact (b : Binary) : Decimal :=
  match b.exponent with
  | .ofNat n => ⟨b.significand <<< n, 0⟩
  | .negSucc n => ⟨b.significand * Nat.pow 5 (n + 1), -(n + 1 : Nat)⟩

/-- The powers of ten that a search goes through: a float has no digit that is further from its
first one, or from the dot. -/
def searchDepth : Nat := 400

def shortest (b : Binary) (atPower : Bool) : Decimal :=
  let w := Window.ofBinary b atPower
  let first := (Nat.toDigits 10 (w.high / w.denominator)).length
  (w.coarsest? searchDepth first).getD b.exact

end Binary

end Sexpr
