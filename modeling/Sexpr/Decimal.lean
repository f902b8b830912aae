import Sexpr.Text

/-!
Decimal numbers: a coefficient times a power of ten. A decimal is read from a numeral of digits and
at most one dot, and written with all its digits or with one digit before the dot and a power of ten.
-/

namespace Sexpr

/-- The number `coefficient · 10 ^ exponent`. -/
structure Decimal where
  coefficient : Nat
  exponent : Int
deriving DecidableEq

namespace Decimal

def ofNumeral (numeral : Text) : Decimal where
  coefficient := Nat.ofDigitChars 10 (numeral.filter (· != '.')) 0
  exponent := -((numeral.dropWhile (· != '.')).drop 1).length

/-- The nearest float, of two the one with an even significand. -/
def toFloat (d : Decimal) : Float :=
  Float.ofScientific d.coefficient (d.exponent < 0) d.exponent.natAbs

def digits (d : Decimal) : Text :=
  Nat.toDigits 10 d.coefficient

/-- The power of ten of the first digit. -/
def leading (d : Decimal) : Int :=
  d.exponent + d.digits.length - 1

def positional (d : Decimal) : Text :=
  match d.exponent with
  | .ofNat n => d.digits ++ List.replicate n '0' ++ ['.', '0']
  | .negSucc n =>
    let places := n + 1
    if places < d.digits.length then
      d.digits.take (d.digits.length - places) ++ '.' :: d.digits.drop (d.digits.length - places)
    else ['0', '.'] ++ List.replicate (places - d.digits.length) '0' ++ d.digits

def scientific (d : Decimal) : Text :=
  let rest := d.digits.drop 1
  d.digits.take 1 ++ (if rest.isEmpty then [] else '.' :: rest) ++ 'e' :: Text.ofInt d.leading

end Decimal

end Sexpr
