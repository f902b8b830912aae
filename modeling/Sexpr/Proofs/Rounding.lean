import Mathlib.Algebra.Order.Field.Power
import Mathlib.Algebra.Order.Field.Rat
import Mathlib.Tactic.FieldSimp
import Mathlib.Tactic.Linarith
import Mathlib.Tactic.Positivity
import Sexpr.Decimal.FloatText
import Sexpr.Proofs.Decimals

/-! The decimal numbers that stand for a float. The shortest form of a binary number lies in its window,
and no number lies in the windows of two floats: neighbours have half a step each, also where the steps
get longer, and where two windows touch, one of the significands is odd. -/
namespace Sexpr

theorem Decimal.value_mul_scale (d : Decimal) :
    d.value * 10 ^ (-d.exponent).toNat = d.coefficient * 10 ^ d.exponent.toNat := by
  have hten : (10 : ℚ) ≠ 0 := by norm_num
  rw [value, mul_assoc, ← zpow_natCast, ← zpow_natCast, ← zpow_add₀ hten]
  congr 2
  omega

namespace Window

def Holds (w : Window) (x : ℚ) : Prop :=
  if w.closed then (w.low : ℚ) ≤ x * w.denominator ∧ x * w.denominator ≤ w.high
  else (w.low : ℚ) < x * w.denominator ∧ x * w.denominator < w.high

/-- The test on numerators decides whether a decimal lies in the window. -/
theorem contains_iff {w : Window} {d : Decimal} : w.contains d = true ↔ w.Holds d.value := by
  have hpos : (0 : ℚ) < 10 ^ (-d.exponent).toNat := by positivity
  have hmul : d.value * w.denominator * 10 ^ (-d.exponent).toNat =
      d.coefficient * 10 ^ d.exponent.toNat * w.denominator := by
    rw [← d.value_mul_scale]
    ring
  have hle (n : Nat) : (n : ℚ) ≤ d.value * w.denominator ↔
      n * Nat.pow 10 (-d.exponent).toNat ≤
        d.coefficient * Nat.pow 10 d.exponent.toNat * w.denominator := by
    rw [← mul_le_mul_iff_left₀ hpos, hmul]
    simp only [Nat.pow_eq]
    exact_mod_cast Iff.rfl
  have hge (n : Nat) : d.value * w.denominator ≤ n ↔
      d.coefficient * Nat.pow 10 d.exponent.toNat * w.denominator ≤
        n * Nat.pow 10 (-d.exponent).toNat := by
    rw [← mul_le_mul_iff_left₀ hpos, hmul]
    simp only [Nat.pow_eq]
    exact_mod_cast Iff.rfl
  unfold contains Holds
  cases w.closed with
  | true =>
    rw [hle, hge]
    simp
  | false =>
    rw [lt_iff_lt_of_le_iff_le (hge w.low), lt_iff_lt_of_le_iff_le (hle w.high)]
    simp

theorem contains_of_nearestMultiple? {w : Window} {power : Int} {d : Decimal}
    (h : w.nearestMultiple? power = some d) : w.contains d = true := by
  unfold nearestMultiple? at h
  dsimp only at h
  split at h
  · rename_i hbelow habove
    split at h <;> cases h
    · exact hbelow
    · exact habove
  · rename_i hbelow _
    cases h
    exact hbelow
  · rename_i _ habove
    cases h
    exact habove
  · cases h

theorem contains_of_coarsest? {w : Window} {n : Nat} {power : Int} {d : Decimal}
    (h : w.coarsest? n power = some d) : w.contains d = true := by
  induction n generalizing power with
  | zero => cases h
  | succ n ih =>
    rw [coarsest?, Option.or_eq_some_iff] at h
    rcases h with h | ⟨-, h⟩
    · exact contains_of_nearestMultiple? h
    · exact ih h

end Window

namespace Binary

def value (b : Binary) : ℚ :=
  b.significand * 2 ^ b.exponent

def low (b : Binary) (atPower : Bool) : ℚ :=
  (4 * b.significand - if atPower then 1 else 2) * 2 ^ (b.exponent - 2)

def high (b : Binary) : ℚ :=
  (4 * b.significand + 2) * 2 ^ (b.exponent - 2)

/-- An even significand owns the ends of its window. -/
theorem holds_ofBinary_iff {b : Binary} (hb : 0 < b.significand) {atPower : Bool} {x : ℚ} :
    (Window.ofBinary b atPower).Holds x ↔
      if b.significand % 2 = 0 then b.low atPower ≤ x ∧ x ≤ b.high
      else b.low atPower < x ∧ x < b.high := by
  have htwo : (2 : ℚ) ≠ 0 := by norm_num
  have hpos : (0 : ℚ) < 2 ^ (2 - b.exponent).toNat := by positivity
  have hunit : (2 : ℚ) ^ (b.exponent - 2).toNat =
      2 ^ (b.exponent - 2) * 2 ^ (2 - b.exponent).toNat := by
    rw [← zpow_natCast, ← zpow_natCast, ← zpow_add₀ htwo]
    congr 1
    omega
  have hlow : ((Window.ofBinary b atPower).low : ℚ) =
      b.low atPower * 2 ^ (2 - b.exponent).toNat := by
    have hle : (if atPower then 1 else 2) ≤ 4 * b.significand := by
      split <;> omega
    rw [low, mul_assoc, ← hunit]
    simp only [Window.ofBinary, Nat.shiftLeft_eq]
    push_cast [hle]
    rfl
  have hhigh : ((Window.ofBinary b atPower).high : ℚ) = b.high * 2 ^ (2 - b.exponent).toNat := by
    rw [high, mul_assoc, ← hunit]
    simp only [Window.ofBinary, Nat.shiftLeft_eq]
    push_cast
    rfl
  have hdenominator : ((Window.ofBinary b atPower).denominator : ℚ) =
      2 ^ (2 - b.exponent).toNat := by
    simp only [Window.ofBinary, Nat.shiftLeft_eq]
    push_cast
    ring
  have hclosed : (Window.ofBinary b atPower).closed = (b.significand % 2 == 0) := rfl
  rw [Window.Holds, hlow, hhigh, hdenominator, hclosed]
  simp only [mul_le_mul_iff_left₀ hpos, mul_lt_mul_iff_left₀ hpos, beq_iff_eq]

theorem value_eq (b : Binary) : b.value = 4 * b.significand * 2 ^ (b.exponent - 2) := by
  rw [value, zpow_sub₀ (by norm_num)]
  ring

theorem low_lt_value (b : Binary) (atPower : Bool) : b.low atPower < b.value := by
  have hpos : (0 : ℚ) < 2 ^ (b.exponent - 2) := by positivity
  rw [value_eq, low]
  refine mul_lt_mul_of_pos_right ?_ hpos
  split <;> linarith

theorem value_lt_high (b : Binary) : b.value < b.high := by
  have hpos : (0 : ℚ) < 2 ^ (b.exponent - 2) := by positivity
  rw [value_eq, high]
  exact mul_lt_mul_of_pos_right (by linarith) hpos

theorem value_exact (b : Binary) : b.exact.value = b.value := by
  obtain ⟨m, e⟩ := b
  cases e with
  | ofNat n =>
    simp only [exact, Decimal.value, value, Nat.shiftLeft_eq]
    push_cast
    rw [Int.ofNat_eq_natCast, zpow_natCast]
    ring
  | negSucc n =>
    have hten : (10 : ℚ) ^ (n + 1) = 5 ^ (n + 1) * 2 ^ (n + 1) := by
      rw [← mul_pow]
      norm_num
    simp only [exact, Decimal.value, value, Nat.pow_eq, zpow_neg, zpow_natCast, zpow_negSucc, hten]
    push_cast
    field_simp

/-- The shortest decimal form stands for a number that is nearest to the binary one. -/
theorem holds_shortest {b : Binary} (hb : 0 < b.significand) (atPower : Bool) :
    (Window.ofBinary b atPower).Holds (b.shortest atPower).value := by
  unfold shortest
  dsimp only
  cases h : (Window.ofBinary b atPower).coarsest? searchDepth (Nat.toDigits 10
      ((Window.ofBinary b atPower).high / (Window.ofBinary b atPower).denominator)).length with
  | some d => exact Window.contains_iff.mp (Window.contains_of_coarsest? h)
  | none =>
    have hlow := b.low_lt_value atPower
    have hhigh := b.value_lt_high
    rw [Option.getD_none, value_exact, holds_ofBinary_iff hb]
    split
    · exact ⟨hlow.le, hhigh.le⟩
    · exact ⟨hlow, hhigh⟩

/-- A significand of 53 bits, all of them used unless the exponent is the least one. -/
structure Canonical (b : Binary) (atPower : Bool) : Prop where
  significand_pos : 0 < b.significand
  significand_lt : b.significand < 0x20000000000000
  exponent_ge : -1074 ≤ b.exponent
  normal : b.exponent = -1074 ∨ 0x10000000000000 ≤ b.significand
  atPower_iff : atPower = true ↔ b.significand = 0x10000000000000 ∧ b.exponent ≠ -1074

def Below (b c : Binary) : Prop :=
  b.exponent < c.exponent ∨ b.exponent = c.exponent ∧ b.significand < c.significand

variable {b c : Binary} {p q : Bool}

/-- The lower end of the window of a greater float, counted in quarters of the steps of a smaller one. -/
theorem exists_quarters_le_low (hb : b.Canonical p) (hc : c.Canonical q) (h : b.Below c) :
    ∃ n : Nat, (n : ℚ) * 2 ^ (b.exponent - 2) ≤ c.low q ∧ 4 * b.significand + 2 ≤ n ∧
      (b.significand % 2 = 0 → c.significand % 2 = 0 → 4 * b.significand + 2 < n) := by
  obtain ⟨hbpos, hblt, hbge, -, -⟩ := hb
  obtain ⟨hcpos, -, -, hcnormal, hcpower⟩ := hc
  obtain ⟨k, hk, hkle⟩ : ∃ k : Nat, (k : ℚ) = (if q then 1 else 2) ∧ k = if q then 1 else 2 :=
    ⟨if q then 1 else 2, by split <;> norm_num, rfl⟩
  have hlow : c.low q = (4 * c.significand - k : ℕ) * 2 ^ (c.exponent - 2) := by
    have hle : k ≤ 4 * c.significand := by
      rw [hkle]
      split <;> omega
    rw [low, ← hk]
    push_cast [hle]
    rfl
  rcases h with hlt | ⟨heq, hlt⟩
  · -- one step of the greater float is two steps or more of the smaller one
    have hsteps : 2 * (2 : ℚ) ^ (b.exponent - 2) ≤ 2 ^ (c.exponent - 2) := by
      rw [← zpow_one_add₀ (by norm_num)]
      exact zpow_le_zpow_right₀ (by norm_num) (by omega)
    have hcnormal : 0x10000000000000 ≤ c.significand := by omega
    refine ⟨2 * (4 * c.significand - k), ?_, ?_⟩
    · rw [hlow, Nat.cast_mul, Nat.cast_two, mul_comm 2, mul_assoc]
      exact mul_le_mul_of_nonneg_left hsteps (Nat.cast_nonneg _)
    · cases q with
      | true =>
        -- the steps below a power of two are half as long, and so is the window on that side
        have := (hcpower.mp rfl).1
        simp only [if_true] at hkle
        omega
      | false =>
        have hne : c.significand ≠ 0x10000000000000 := fun h =>
          absurd (hcpower.mpr ⟨h, by omega⟩) (by decide)
        simp only [Bool.false_eq_true, if_false] at hkle
        omega
  · -- the steps are equal, and the significands differ by one or more
    refine ⟨4 * c.significand - k, ?_, ?_⟩
    · rw [hlow, heq]
    · have hktwo : k ≤ 2 := by
        rw [hkle]
        split <;> omega
      omega

/-- The windows of two floats do not overlap, and where they touch one of them is open. -/
theorem not_holds_of_below (hb : b.Canonical p) (hc : c.Canonical q) (h : b.Below c) {x : ℚ}
    (hbx : (Window.ofBinary b p).Holds x) (hcx : (Window.ofBinary c q).Holds x) : False := by
  rw [holds_ofBinary_iff hb.significand_pos] at hbx
  rw [holds_ofBinary_iff hc.significand_pos] at hcx
  obtain ⟨n, hlow, hle, hlt⟩ := exists_quarters_le_low hb hc h
  have hpos : (0 : ℚ) < 2 ^ (b.exponent - 2) := by positivity
  have hhigh : b.high = (4 * b.significand + 2 : ℕ) * 2 ^ (b.exponent - 2) := by
    rw [high]
    push_cast
    rfl
  have hends : b.high ≤ c.low q :=
    calc b.high = (4 * b.significand + 2 : ℕ) * 2 ^ (b.exponent - 2) := hhigh
      _ ≤ n * 2 ^ (b.exponent - 2) := mul_le_mul_of_nonneg_right (Nat.cast_le.mpr hle) hpos.le
      _ ≤ c.low q := hlow
  split at hbx
  · rename_i hbeven
    split at hcx
    · rename_i hceven
      have hapart : b.high < c.low q :=
        calc b.high = (4 * b.significand + 2 : ℕ) * 2 ^ (b.exponent - 2) := hhigh
          _ < n * 2 ^ (b.exponent - 2) :=
            mul_lt_mul_of_pos_right (Nat.cast_lt.mpr (hlt hbeven hceven)) hpos
          _ ≤ c.low q := hlow
      exact absurd (hcx.1.trans hbx.2) (not_le.mpr hapart)
    · exact absurd (hcx.1.trans_le hbx.2) (not_lt.mpr hends)
  · split at hcx
    · exact absurd (hcx.1.trans_lt hbx.2) (not_lt.mpr hends)
    · exact absurd (hcx.1.trans hbx.2) (not_lt.mpr hends)

/-- A number is nearest to one float only. -/
theorem eq_of_holds (hb : b.Canonical p) (hc : c.Canonical q) {x : ℚ}
    (hbx : (Window.ofBinary b p).Holds x) (hcx : (Window.ofBinary c q).Holds x) :
    b = c ∧ p = q := by
  have hbc : b = c := by
    by_contra hne
    have hcases : b.Below c ∨ c.Below b := by
      obtain ⟨m, e⟩ := b
      obtain ⟨m', e'⟩ := c
      rw [mk.injEq] at hne
      simp only [Below]
      omega
    rcases hcases with h | h
    · exact not_holds_of_below hb hc h hbx hcx
    · exact not_holds_of_below hc hb h hcx hbx
  subst hbc
  exact ⟨rfl, Bool.eq_iff_iff.mpr (hb.atPower_iff.trans hc.atPower_iff.symm)⟩

/-- A number that is nearest to a float is not zero. -/
theorem pos_of_holds (hb : b.Canonical p) {x : ℚ} (hx : (Window.ofBinary b p).Holds x) : 0 < x := by
  have hlow : 0 < b.low p := by
    have hpos : (0 : ℚ) < 2 ^ (b.exponent - 2) := by positivity
    have hone : (1 : ℚ) ≤ b.significand := by exact_mod_cast hb.significand_pos
    refine mul_pos ?_ hpos
    split <;> linarith
  rw [holds_ofBinary_iff hb.significand_pos] at hx
  split at hx
  · exact hlow.trans_le hx.1
  · exact hlow.trans hx.1

end Binary

end Sexpr
