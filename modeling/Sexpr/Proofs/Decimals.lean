import Mathlib.Algebra.Field.Rat
import Mathlib.Tactic.Ring
import Sexpr.Decimal
import Sexpr.Proofs.Reading

/-! Numbers and the texts that they are written as. A decimal number is determined by either of its
forms: the positional one has a dot among its digits, the other one has the power of ten of its first
digit behind an `e`, and so neither is ever taken for the other or for an integer. -/
namespace Sexpr

namespace Text

theorem isDigit_of_mem_toDigits {n : Nat} {c : Char} (h : c ∈ Nat.toDigits 10 n) :
    Lexeme.isDigit c = true := by
  have hdigit := Nat.isDigit_of_mem_toDigits (by decide) (by decide) h
  simpa [Char.isDigit, Lexeme.isDigit, Char.le_def] using hdigit

theorem toDigits_inj {m n : Nat} (h : Nat.toDigits 10 m = Nat.toDigits 10 n) : m = n := by
  rw [← Nat.ofDigitChars_ten_toDigits (n := m), h, Nat.ofDigitChars_ten_toDigits]

theorem mem_ofInt {n : Int} {c : Char} (h : c ∈ ofInt n) : c = '-' ∨ Lexeme.isDigit c = true := by
  unfold ofInt at h
  split at h
  · exact (List.mem_cons.mp h).imp_right isDigit_of_mem_toDigits
  · exact .inr (isDigit_of_mem_toDigits h)

/-- No two integers have one numeral. -/
theorem ofInt_inj {m n : Int} (h : ofInt m = ofInt n) : m = n := by
  have hminus (k : Nat) : '-' ∉ Nat.toDigits 10 k := fun hk =>
    absurd (isDigit_of_mem_toDigits hk) (by decide)
  unfold ofInt at h
  split at h <;> split at h
  · have := toDigits_inj (List.cons.inj h).2
    omega
  · exact absurd (h ▸ List.mem_cons_self) (hminus n.natAbs)
  · exact absurd (h ▸ List.mem_cons_self) (hminus m.natAbs)
  · have := toDigits_inj h
    omega

end Text

namespace Decimal

def value (d : Decimal) : ℚ :=
  d.coefficient * 10 ^ d.exponent

theorem ofDigitChars_digits (d : Decimal) : Nat.ofDigitChars 10 d.digits 0 = d.coefficient :=
  Nat.ofDigitChars_ten_toDigits

/-- The positional form is digits with a dot among them, and the number is that of all digits, moved by
as many places as there are behind the dot. -/
theorem exists_positional (d : Decimal) : ∃ whole fraction, d.positional = whole ++ '.' :: fraction ∧
    whole ≠ [] ∧ (∀ c ∈ whole ++ fraction, Lexeme.isDigit c = true) ∧
    d.value = Nat.ofDigitChars 10 (whole ++ fraction) 0 * 10 ^ (-(fraction.length : ℤ)) := by
  have hdigits : ∀ c ∈ d.digits, Lexeme.isDigit c = true := fun c => Text.isDigit_of_mem_toDigits
  have hzeros (n : Nat) : ∀ c ∈ List.replicate n '0', Lexeme.isDigit c = true := by
    intro c hc
    rw [(List.mem_replicate.mp hc).2]
    decide
  have hne : d.digits ≠ [] := Nat.toDigits_ne_nil
  unfold positional value
  split
  · -- a whole number: zeros behind the digits, and one behind the dot
    rename_i n hn
    refine ⟨d.digits ++ List.replicate n '0', ['0'], by simp, by simp [hne], ?_, ?_⟩
    · exact List.forall_mem_append.mpr ⟨List.forall_mem_append.mpr ⟨hdigits, hzeros n⟩, hzeros 1⟩
    · have hall : Nat.ofDigitChars 10 (d.digits ++ List.replicate n '0' ++ ['0']) 0 =
          10 * (10 ^ n * d.coefficient) := by
        rw [Nat.ofDigitChars_append, Nat.ofDigitChars_append, ofDigitChars_digits,
          Nat.ofDigitChars_replicate_zero]
        rfl
      rw [hn, hall]
      push_cast
      rw [Int.ofNat_eq_natCast, zpow_natCast, List.length_singleton, Nat.cast_one, zpow_neg_one]
      ring
  · rename_i n hn
    dsimp only
    split
    · -- there are more digits than places, and the dot is among them
      rename_i hplaces
      refine ⟨_, _, rfl, ?_, ?_, ?_⟩
      · rw [← List.length_pos_iff, List.length_take]
        omega
      · rwa [List.take_append_drop]
      · rw [List.take_append_drop, ofDigitChars_digits, List.length_drop, hn, Int.negSucc_eq]
        congr 3
        omega
    · -- zeros in front of the digits, which do not count
      rename_i hplaces
      have hzero : Nat.ofDigitChars 10 ['0'] 0 = 0 := rfl
      have hall : Nat.ofDigitChars 10
          (['0'] ++ (List.replicate (n + 1 - d.digits.length) '0' ++ d.digits)) 0 = d.coefficient := by
        rw [Nat.ofDigitChars_append, Nat.ofDigitChars_append, hzero, Nat.ofDigitChars_replicate_zero,
          Nat.mul_zero, ofDigitChars_digits]
      refine ⟨['0'], List.replicate (n + 1 - d.digits.length) '0' ++ d.digits, rfl,
        List.cons_ne_nil _ _, ?_, ?_⟩
      · exact List.forall_mem_append.mpr
          ⟨hzeros 1, List.forall_mem_append.mpr ⟨hzeros _, hdigits⟩⟩
      · rw [hall, hn, Int.negSucc_eq, List.length_append, List.length_replicate]
        congr 3
        omega

/-- Decimals that are written in full alike have one value. -/
theorem value_eq_of_positional {d d' : Decimal} (h : d.positional = d'.positional) :
    d.value = d'.value := by
  obtain ⟨whole, fraction, htext, -, hdigits, hvalue⟩ := d.exists_positional
  obtain ⟨whole', fraction', htext', -, hdigits', hvalue'⟩ := d'.exists_positional
  have hdot {t u : Text} (ht : ∀ c ∈ t ++ u, Lexeme.isDigit c = true) : '.' ∉ t := fun hmem =>
    absurd (ht _ (List.mem_append_left u hmem)) (by decide)
  rw [htext, htext'] at h
  obtain ⟨rfl, rfl⟩ := Text.append_cons_inj (hdot hdigits) (hdot hdigits') h
  rw [hvalue, hvalue']

def mantissa (d : Decimal) : Text :=
  d.digits.take 1 ++ if (d.digits.drop 1).isEmpty then [] else '.' :: d.digits.drop 1

theorem scientific_eq (d : Decimal) : d.scientific = d.mantissa ++ 'e' :: Text.ofInt d.leading :=
  rfl

theorem mem_mantissa {d : Decimal} {c : Char} (h : c ∈ d.mantissa) :
    Lexeme.isNumeral c = true := by
  have hdigits {c : Char} (hc : c ∈ d.digits) : Lexeme.isNumeral c = true := by
    rw [Lexeme.isNumeral, Text.isDigit_of_mem_toDigits hc]
    rfl
  rcases List.mem_append.mp h with h | h
  · exact hdigits (List.mem_of_mem_take h)
  · split at h
    · cases h
    · rcases List.mem_cons.mp h with rfl | h
      · rfl
      · exact hdigits (List.mem_of_mem_drop h)

theorem filter_mantissa (d : Decimal) : d.mantissa.filter Lexeme.isDigit = d.digits := by
  have hdigits (t : Text) (ht : t ⊆ d.digits) : t.filter Lexeme.isDigit = t :=
    List.filter_eq_self.mpr fun c hc => Text.isDigit_of_mem_toDigits (ht hc)
  have hrest : (if (d.digits.drop 1).isEmpty then [] else '.' :: d.digits.drop 1).filter
      Lexeme.isDigit = d.digits.drop 1 := by
    split
    · rename_i h
      rw [List.isEmpty_iff.mp h]
      rfl
    · rw [List.filter_cons_of_neg (by decide), hdigits _ (List.drop_subset 1 _)]
  rw [mantissa, List.filter_append, hrest, hdigits _ (List.take_subset 1 _), List.take_append_drop]

/-- In the scientific form a decimal keeps its coefficient and its exponent. -/
theorem scientific_inj {d d' : Decimal} (h : d.scientific = d'.scientific) : d = d' := by
  have hmark (d : Decimal) : 'e' ∉ d.mantissa := fun hmem => absurd (mem_mantissa hmem) (by decide)
  rw [scientific_eq, scientific_eq] at h
  obtain ⟨hmantissa, hleading⟩ := Text.append_cons_inj (hmark d) (hmark d') h
  have hdigits : d.digits = d'.digits := by rw [← filter_mantissa, hmantissa, filter_mantissa]
  have hexponent := Text.ofInt_inj hleading
  rw [leading, leading, hdigits] at hexponent
  obtain ⟨coefficient, exponent⟩ := d
  obtain ⟨coefficient', exponent'⟩ := d'
  have hcoefficient : coefficient = coefficient' := Text.toDigits_inj hdigits
  have hexp : exponent = exponent' := by
    dsimp only at hexponent
    omega
  rw [hcoefficient, hexp]

def written (d : Decimal) (positional : Bool) : Text :=
  if positional then d.positional else d.scientific

theorem mem_positional {d : Decimal} {c : Char} (h : c ∈ d.positional) :
    Lexeme.isNumeral c = true := by
  obtain ⟨whole, fraction, htext, -, hdigits, -⟩ := d.exists_positional
  have hnumeral : ∀ c ∈ whole ++ fraction, Lexeme.isNumeral c = true := by
    intro c hc
    rw [Lexeme.isNumeral, hdigits c hc]
    rfl
  obtain ⟨hwhole, hfraction⟩ := List.forall_mem_append.mp hnumeral
  rw [htext] at h
  rcases List.mem_append.mp h with h | h
  · exact hwhole c h
  · rcases List.mem_cons.mp h with rfl | h
    · rfl
    · exact hfraction c h

theorem mem_written {d : Decimal} {positional : Bool} {c : Char} (h : c ∈ d.written positional) :
    Lexeme.isNumeral c = true ∨ c = 'e' ∨ c = '-' := by
  cases positional with
  | true => exact .inl (mem_positional h)
  | false =>
    rcases List.mem_append.mp h with h | h
    · exact .inl (mem_mantissa h)
    · rcases List.mem_cons.mp h with rfl | h
      · exact .inr (.inl rfl)
      · rcases Text.mem_ofInt h with rfl | h
        · exact .inr (.inr rfl)
        · refine .inl ?_
          rw [Lexeme.isNumeral, h]
          rfl

theorem exists_written_cons (d : Decimal) (positional : Bool) :
    ∃ c t, d.written positional = c :: t ∧ Lexeme.isDigit c = true := by
  cases positional with
  | true =>
    obtain ⟨whole, fraction, htext, hne, hdigits, -⟩ := d.exists_positional
    obtain ⟨c, whole, rfl⟩ := List.exists_cons_of_ne_nil hne
    exact ⟨c, _, htext, hdigits c List.mem_cons_self⟩
  | false =>
    have hne : d.digits ≠ [] := Nat.toDigits_ne_nil
    obtain ⟨c, rest, hdigits⟩ := List.exists_cons_of_ne_nil hne
    have hc : c ∈ d.digits := by
      rw [hdigits]
      exact List.mem_cons_self
    have htext : d.written false = [c] ++ (if rest.isEmpty then [] else '.' :: rest) ++
        'e' :: Text.ofInt d.leading := by
      rw [written, if_neg Bool.false_ne_true, scientific_eq, mantissa, hdigits]
      rfl
    exact ⟨c, _, htext, Text.isDigit_of_mem_toDigits hc⟩

/-- A number is determined by either of its forms. -/
theorem value_eq_of_written {d d' : Decimal} {a b : Bool} (h : d.written a = d'.written b) :
    d.value = d'.value := by
  have hmixed {d d' : Decimal} (h : d.positional = d'.scientific) : False := by
    have hmark : 'e' ∈ d.positional := by
      rw [h, scientific_eq]
      exact List.mem_append_right _ List.mem_cons_self
    exact absurd (mem_positional hmark) (by decide)
  cases a <;> cases b
  · rw [scientific_inj h]
  · exact (hmixed h.symm).elim
  · exact (hmixed h).elim
  · exact value_eq_of_positional h

end Decimal

end Sexpr
