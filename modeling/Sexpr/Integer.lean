import Sexpr.Text

/-!
Integers of 64 bits. A result that does not fit is refused, never wrapped. Main statement: an integer
is accepted exactly if it lies within the bounds, and then as itself.
-/

namespace Sexpr

def Fits64 (n : Int) : Prop :=
  Int64.minValue.toInt ≤ n ∧ n ≤ Int64.maxValue.toInt

instance (n : Int) : Decidable (Fits64 n) :=
  inferInstanceAs (Decidable (_ ∧ _))

def int64? (n : Int) : Option Int64 :=
  if Fits64 n then some (Int64.ofInt n) else none

theorem fits64_toInt (n : Int64) : Fits64 n.toInt :=
  ⟨n.minValue_le_toInt, n.toInt_le⟩

theorem toInt_ofInt_of_fits64 {n : Int} (h : Fits64 n) : (Int64.ofInt n).toInt = n :=
  Int64.toInt_ofInt_of_le h.1 (Int.lt_of_le_of_lt h.2 (by decide))

/-- An integer is accepted as itself and nothing else. -/
theorem int64?_eq_some_iff {n : Int} {m : Int64} : int64? n = some m ↔ m.toInt = n := by
  unfold int64?
  constructor
  · intro h
    split at h
    · rename_i hn
      rw [← Option.some.inj h, toInt_ofInt_of_fits64 hn]
    · cases h
  · rintro rfl
    simp [fits64_toInt]

theorem int64?_eq_none_iff {n : Int} : int64? n = none ↔ ¬Fits64 n := by
  simp [int64?]

def numeralValue (digits : Text) : Nat :=
  Nat.ofDigitChars 10 digits 0

end Sexpr
