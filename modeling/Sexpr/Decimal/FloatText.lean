import Sexpr.Decimal.Shortest

/-!
The text of a float: the fewest digits that read back, always with a dot or a power of ten, so that
a float never looks like an integer. A style says where the positional form ends.
-/

namespace Sexpr

structure FloatStyle where
  positional : Int → Bool

def FloatStyle.plain : FloatStyle := ⟨fun _ => true⟩

def FloatStyle.compact : FloatStyle := ⟨fun leading => -4 ≤ leading && leading < 16⟩

inductive FloatClass
  | nan
  | infinite (negative : Bool)
  | zero (negative : Bool)
  /-- `atPower`: the neighbour towards zero is twice as near as the other one. -/
  | finite (negative : Bool) (magnitude : Binary) (atPower : Bool)

def FloatClass.ofBits (bits : Nat) : FloatClass :=
  let negative := bits >>> 63 == 1
  let biased : Nat := (bits >>> 52) % 2048
  let hidden := 1 <<< 52
  let fraction := bits % hidden
  if biased == 2047 then
    if fraction == 0 then .infinite negative else .nan
  else if biased == 0 then
    if fraction == 0 then .zero negative else .finite negative ⟨fraction, -1074⟩ false
  else .finite negative ⟨hidden + fraction, (biased : Int) - 1075⟩ (fraction == 0 && biased != 1)

def signText (negative : Bool) : Text :=
  if negative then ['-'] else []

def FloatStyle.write (style : FloatStyle) (x : Float) : Text :=
  match FloatClass.ofBits x.toBits.toNat with
  | .nan => "NaN".toList
  | .infinite negative => signText negative ++ "inf".toList
  | .zero negative => signText negative ++ "0.0".toList
  | .finite negative magnitude atPower =>
    let d := magnitude.shortest atPower
    signText negative ++ if style.positional d.leading then d.positional else d.scientific

example : FloatStyle.plain.write (-0.0) = "-0.0".toList := by decide +kernel

example : FloatStyle.plain.write (0.1 + 0.2) = "0.30000000000000004".toList := by decide +kernel

example : FloatStyle.compact.write 9999999999999998 = "9999999999999998.0".toList := by
  decide +kernel

example : FloatStyle.compact.write 1e16 = "1e16".toList := by decide +kernel

example : FloatStyle.compact.write 0.000015 = "1.5e-5".toList := by decide +kernel

-- half-way between two decimals of equally many digits
example : FloatStyle.plain.write 1321358542540266.25 = "1321358542540266.3".toList := by
  decide +kernel

end Sexpr
