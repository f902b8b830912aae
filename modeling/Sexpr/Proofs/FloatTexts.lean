import Sexpr.Proofs.Rounding

/-! Floats told apart by their texts. The class of a float, its magnitude included, has all that its bits
say, and the text of a class has all that the class says: the sign, whether it is a number, and if so
the only float that the number is nearest to. All floats that are not numbers are one. -/
namespace Sexpr

namespace Binary

theorem canonical_subnormal {fraction : Nat} (h0 : fraction ≠ 0) (h : fraction < 0x10000000000000) :
    Canonical ⟨fraction, -1074⟩ false where
  significand_pos := Nat.pos_of_ne_zero h0
  significand_lt := Nat.lt_trans h (by decide)
  exponent_ge := Int.le_refl _
  normal := .inl rfl
  atPower_iff := iff_of_false Bool.false_ne_true fun h => h.2 rfl

theorem canonical_normal {biased fraction : Nat} (h0 : biased ≠ 0) (h : fraction < 0x10000000000000) :
    Canonical ⟨0x10000000000000 + fraction, (biased : Int) - 1075⟩ (fraction == 0 && biased != 1) where
  significand_pos := Nat.add_pos_left (by decide) _
  significand_lt := Nat.add_lt_add_left h _
  exponent_ge := by
    dsimp only
    omega
  normal := .inr (Nat.le_add_right _ _)
  atPower_iff := by
    rw [Bool.and_eq_true, beq_iff_eq, bne_iff_ne]
    dsimp only
    omega

end Binary

namespace FloatClass

def Canonical : FloatClass → Prop
  | finite _ magnitude atPower => magnitude.Canonical atPower
  | _ => True

def fields : FloatClass → Bool × Nat × Nat
  | nan => (false, 2047, 1)
  | infinite negative => (negative, 2047, 0)
  | zero negative => (negative, 0, 0)
  | finite negative magnitude _ =>
    if magnitude.significand < 0x10000000000000 then (negative, 0, magnitude.significand)
    else (negative, (magnitude.exponent + 1075).toNat, magnitude.significand - 0x10000000000000)

/-- Unless the bits are no number, their class has all that they say. -/
theorem ofBits_cases (bits : Nat) :
    (ofBits bits = nan ∧ (bits >>> 52) % 2048 = 2047 ∧ bits % 0x10000000000000 ≠ 0) ∨
      (ofBits bits).Canonical ∧
        (ofBits bits).fields = (bits >>> 63 == 1, (bits >>> 52) % 2048, bits % 0x10000000000000) := by
  have hfraction : bits % 0x10000000000000 < 0x10000000000000 := Nat.mod_lt _ (by decide)
  have hhidden : 1 <<< 52 = 0x10000000000000 := rfl
  simp only [ofBits, hhidden, beq_iff_eq]
  generalize bits % 0x10000000000000 = fraction at *
  generalize (bits >>> 52) % 2048 = biased at *
  split
  · rename_i hbiased
    split
    · rename_i hzero
      exact .inr ⟨trivial, by rw [hbiased, hzero, fields]⟩
    · rename_i hzero
      exact .inl ⟨rfl, hbiased, hzero⟩
  · split
    · rename_i hbiased
      split
      · rename_i hzero
        exact .inr ⟨trivial, by rw [hbiased, hzero, fields]⟩
      · rename_i hzero
        refine .inr ⟨Binary.canonical_subnormal hzero hfraction, ?_⟩
        rw [hbiased]
        exact if_pos hfraction
    · rename_i hbiased
      refine .inr ⟨Binary.canonical_normal hbiased hfraction, ?_⟩
      have hnormal : ¬0x10000000000000 + fraction < 0x10000000000000 := by omega
      have hexponent : ((biased : Int) - 1075 + 1075).toNat = biased := by omega
      have hsignificand : 0x10000000000000 + fraction - 0x10000000000000 = fraction := by omega
      simp only [fields, if_neg hnormal, hexponent, hsignificand]

theorem canonical_ofBits (bits : Nat) : (ofBits bits).Canonical := by
  rcases ofBits_cases bits with ⟨h, -⟩ | ⟨h, -⟩
  · rw [h]
    trivial
  · exact h

/-- The fields of a float give its bits, but for numbers that are none. -/
theorem ofBits_inj {a b : Nat} (ha : a < 0x10000000000000000) (hb : b < 0x10000000000000000)
    (hnumber : ofBits a ≠ nan) (h : ofBits a = ofBits b) : a = b := by
  rcases ofBits_cases a with ⟨hnan, -⟩ | ⟨-, hfields⟩
  · exact absurd hnan hnumber
  rcases ofBits_cases b with ⟨hnan, -⟩ | ⟨-, hfields'⟩
  · exact absurd (h.trans hnan) hnumber
  rw [h, hfields'] at hfields
  simp only [Prod.mk.injEq, Nat.shiftRight_eq_div_pow] at hfields
  obtain ⟨hsign, hexponent, hfraction⟩ := hfields
  rw [Bool.eq_iff_iff, beq_iff_eq, beq_iff_eq] at hsign
  omega

def body (style : FloatStyle) : FloatClass → Text
  | nan => ['N', 'a', 'N']
  | infinite _ => ['i', 'n', 'f']
  | zero _ => (Decimal.mk 0 0).written true
  | finite _ magnitude atPower =>
    (magnitude.shortest atPower).written (style.positional (magnitude.shortest atPower).leading)

def isNegative : FloatClass → Bool
  | nan => false
  | infinite negative | zero negative | finite negative _ _ => negative

variable {style : FloatStyle} {a b : FloatClass}

def letter : FloatClass → Char
  | nan => 'N'
  | infinite _ => 'i'
  | zero _ | finite .. => '0'

theorem exists_body_cons (style : FloatStyle) (a : FloatClass) : ∃ c t, a.body style = c :: t ∧
    c ≠ '-' ∧ a.letter = if Lexeme.isDigit c then '0' else c := by
  have hwritten (d : Decimal) (positional : Bool) : ∃ c t, d.written positional = c :: t ∧ c ≠ '-' ∧
      '0' = if Lexeme.isDigit c then '0' else c := by
    obtain ⟨c, t, htext, hc⟩ := d.exists_written_cons positional
    refine ⟨c, t, htext, ?_, (if_pos hc).symm⟩
    rintro rfl
    exact absurd hc (by decide)
  cases a with
  | nan => exact ⟨_, _, rfl, by decide, rfl⟩
  | infinite negative => exact ⟨_, _, rfl, by decide, rfl⟩
  | zero negative => exact hwritten _ _
  | finite negative magnitude atPower => exact hwritten _ _

theorem letter_eq_of_body (h : a.body style = b.body style) : a.letter = b.letter := by
  obtain ⟨c, t, ha, -, hletter⟩ := a.exists_body_cons style
  obtain ⟨d, u, hb, -, hletter'⟩ := b.exists_body_cons style
  rw [ha, hb] at h
  rw [hletter, hletter', (List.cons.inj h).1]

/-- Canonical floats of one sign are told apart by what is written behind the sign. -/
theorem eq_of_body (ha : a.Canonical) (hb : b.Canonical) (h : a.body style = b.body style)
    (hsign : a.isNegative = b.isNegative) : a = b := by
  have hletter := letter_eq_of_body h
  have hzero {m : Binary} {p q : Bool} (hm : m.Canonical p)
      (h : (Decimal.mk 0 0).written true = (m.shortest p).written q) : False := by
    have hvalue := Decimal.value_eq_of_written h
    have hpos := Binary.pos_of_holds hm (Binary.holds_shortest hm.significand_pos p)
    rw [← hvalue, Decimal.value, Nat.cast_zero, zero_mul] at hpos
    exact lt_irrefl 0 hpos
  cases a with
  | nan =>
    cases b with
    | nan => rfl
    | _ => cases hletter
  | infinite negative =>
    cases b with
    | infinite negative' => exact congrArg infinite hsign
    | _ => cases hletter
  | zero negative =>
    cases b with
    | zero negative' => exact congrArg zero hsign
    | finite negative' magnitude' atPower' => exact (hzero hb h).elim
    | _ => cases hletter
  | finite negative magnitude atPower =>
    cases b with
    | zero negative' => exact (hzero ha h.symm).elim
    | finite negative' magnitude' atPower' =>
      have hholds := Binary.holds_shortest ha.significand_pos atPower
      have hholds' := Binary.holds_shortest hb.significand_pos atPower'
      rw [← Decimal.value_eq_of_written h] at hholds'
      obtain ⟨rfl, rfl⟩ := Binary.eq_of_holds ha hb hholds hholds'
      exact congrArg (fun negative => finite negative magnitude atPower) hsign
    | _ => cases hletter

theorem signText_append_inj {p q : Bool} {c d : Char} {t u : Text} (hc : c ≠ '-') (hd : d ≠ '-')
    (h : signText p ++ c :: t = signText q ++ d :: u) : p = q ∧ c :: t = d :: u := by
  cases p <;> cases q
  · exact ⟨rfl, h⟩
  · exact absurd (List.cons.inj h).1 hc
  · exact absurd (List.cons.inj h).1.symm hd
  · exact ⟨rfl, (List.cons.inj h).2⟩

theorem eq_of_text (ha : a.Canonical) (hb : b.Canonical)
    (h : signText a.isNegative ++ a.body style = signText b.isNegative ++ b.body style) : a = b := by
  obtain ⟨c, t, hac, hc, -⟩ := a.exists_body_cons style
  obtain ⟨d, u, hbd, hd, -⟩ := b.exists_body_cons style
  -- no body begins with a minus sign, so what stands in front of it is seen
  have hsplit := h
  rw [hac, hbd] at hsplit
  obtain ⟨hsign, hbody⟩ := signText_append_inj hc hd hsplit
  rw [← hac, ← hbd] at hbody
  exact eq_of_body ha hb hbody hsign

theorem mem_body {c : Char} (h : c ∈ a.body style) :
    Lexeme.isNumeral c = true ∨ c ∈ ['-', 'e', 'i', 'n', 'f', 'N', 'a'] := by
  have hwritten {d : Decimal} {positional : Bool} (h : c ∈ d.written positional) :
      Lexeme.isNumeral c = true ∨ c ∈ ['-', 'e', 'i', 'n', 'f', 'N', 'a'] := by
    rcases Decimal.mem_written h with h | rfl | rfl
    · exact .inl h
    · exact .inr (by decide)
    · exact .inr (by decide)
  have hletters (t : Text) (ht : t ⊆ ['-', 'e', 'i', 'n', 'f', 'N', 'a']) (h : c ∈ t) :
      Lexeme.isNumeral c = true ∨ c ∈ ['-', 'e', 'i', 'n', 'f', 'N', 'a'] := .inr (ht h)
  cases a with
  | nan => exact hletters ['N', 'a', 'N'] (by decide) h
  | infinite negative => exact hletters ['i', 'n', 'f'] (by decide) h
  | zero negative => exact hwritten h
  | finite negative magnitude atPower => exact hwritten h

end FloatClass

namespace FloatStyle

open FloatClass

variable {style : FloatStyle} {x y : Float}

/-- The text of a float is its sign and what the class of its bits is written as. -/
theorem write_eq (style : FloatStyle) (x : Float) :
    style.write x = signText (ofBits x.toBits.toNat).isNegative ++
      (ofBits x.toBits.toNat).body style := by
  unfold write
  cases ofBits x.toBits.toNat <;> rfl

theorem mem_write {c : Char} (h : c ∈ style.write x) :
    Lexeme.isNumeral c = true ∨ c ∈ ['-', 'e', 'i', 'n', 'f', 'N', 'a'] := by
  rw [write_eq] at h
  rcases List.mem_append.mp h with h | h
  · unfold signText at h
    split at h
    · cases List.mem_singleton.mp h
      exact .inr (by decide)
    · cases h
  · exact mem_body h

/-- In the plain style every text has a character that no integer is written with. -/
theorem exists_mem_plain_write (x : Float) :
    ∃ c ∈ FloatStyle.plain.write x, Lexeme.isDigit c = false ∧ c ≠ '-' := by
  have hbody : ∃ c ∈ (ofBits x.toBits.toNat).body .plain, Lexeme.isDigit c = false ∧ c ≠ '-' := by
    have hdot (d : Decimal) : '.' ∈ d.written true := by
      obtain ⟨whole, fraction, htext, -⟩ := d.exists_positional
      rw [Decimal.written, if_pos rfl, htext]
      exact List.mem_append_right _ List.mem_cons_self
    cases ofBits x.toBits.toNat with
    | nan => exact ⟨'N', List.mem_cons_self, by decide⟩
    | infinite negative => exact ⟨'i', List.mem_cons_self, by decide⟩
    | zero negative => exact ⟨'.', hdot _, by decide⟩
    | finite negative magnitude atPower => exact ⟨'.', hdot _, by decide⟩
  obtain ⟨c, hc, hclass⟩ := hbody
  rw [write_eq]
  exact ⟨c, List.mem_append_right _ hc, hclass⟩

/-- Of the bits that are no number, floats have one pattern only. -/
theorem toBits_of_nan (h : ofBits x.toBits.toNat = nan) :
    x.toBits.toBitVec = Float.Model.UnpackedFloat.packedNaN .binary64 := by
  obtain ⟨hexponent, hfraction⟩ : (x.toBits.toNat >>> 52) % 2048 = 2047 ∧
      x.toBits.toNat % 0x10000000000000 ≠ 0 := by
    rcases ofBits_cases x.toBits.toNat with ⟨-, hbits⟩ | ⟨-, hfields⟩
    · exact hbits
    · rw [h, fields, Prod.mk.injEq, Prod.mk.injEq] at hfields
      omega
  have hvalid : Float.Model.Format.binary64.Valid x.toBits.toBitVec := x.toModel.valid
  apply hvalid.eq_packedNaN
  · apply BitVec.eq_of_toNat_eq
    simpa [Float.Model.UnpackedFloat.unpackExponent] using hexponent
  · intro hzero
    refine hfraction ?_
    simpa [Float.Model.UnpackedFloat.unpackMantissa] using congrArg BitVec.toNat hzero

/-- Different floats have different texts. -/
theorem write_inj (h : style.write x = style.write y) : x = y := by
  rw [write_eq, write_eq] at h
  have hclass := eq_of_text (canonical_ofBits _) (canonical_ofBits _) h
  have hbits : x.toBits = y.toBits := by
    by_cases hx : ofBits x.toBits.toNat = nan
    · apply UInt64.toBitVec_inj.mp
      rw [toBits_of_nan hx, toBits_of_nan (hclass ▸ hx)]
    · exact UInt64.toNat_inj.mp (ofBits_inj x.toBits.toNat_lt y.toBits.toNat_lt hx hclass)
  obtain ⟨⟨bits, hvalid⟩⟩ := x
  obtain ⟨⟨bits', hvalid'⟩⟩ := y
  cases hbits
  rfl

end FloatStyle

end Sexpr
