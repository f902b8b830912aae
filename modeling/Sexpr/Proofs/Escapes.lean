import Sexpr.Text.Quoted
import Sexpr.Proofs.Reading

/-! Texts and characters read back from between their delimiters. A backslash begins an escape and
nothing else, the character behind it tells how the escape goes on, and a code point ends at its brace.
So the escaped characters of a text follow one another without doubt, up to a delimiter that has no
backslash before it. -/
namespace Sexpr

namespace Text

theorem digitChar_inj {m n : Nat} (hm : m < 16) (hn : n < 16) (h : m.digitChar = n.digitChar) :
    m = n := by
  have hall : ∀ a < 16, ∀ b < 16, a.digitChar = b.digitChar → a = b := by decide
  exact hall m hm n hn h

theorem hexadecimal_inj {m n : Nat} (h : Nat.toDigits 16 m = Nat.toDigits 16 n) : m = n := by
  have hlast (k : Nat) (hk : 16 ≤ k) : Nat.toDigits 16 k =
      Nat.toDigits 16 (k / 16) ++ [(k % 16).digitChar] := Nat.toDigits_of_base_le (by decide) hk
  have hsmall {j k : Nat} (hj : j < 16) (hk : 16 ≤ k) (h : Nat.toDigits 16 j = Nat.toDigits 16 k) :
      False := by
    rw [Nat.toDigits_of_lt_base hj, hlast k hk] at h
    have hlength := congrArg List.length h
    have hpos := Nat.length_toDigits_pos (b := 16) (n := k / 16)
    rw [List.length_append, List.length_singleton, List.length_singleton] at hlength
    omega
  induction m using Nat.strongRecOn generalizing n with
  | _ m ih =>
    rcases Nat.lt_or_ge m 16 with hm | hm <;> rcases Nat.lt_or_ge n 16 with hn | hn
    · rw [Nat.toDigits_of_lt_base hm, Nat.toDigits_of_lt_base hn] at h
      exact digitChar_inj hm hn (List.cons.inj h).1
    · exact (hsmall hm hn h).elim
    · exact (hsmall hn hm h.symm).elim
    · rw [hlast m hm, hlast n hn] at h
      obtain ⟨hinit, hdigit⟩ := List.append_inj' h rfl
      have hquotient := ih (m / 16) (by omega) hinit
      have hremainder := digitChar_inj (Nat.mod_lt m (by decide)) (Nat.mod_lt n (by decide))
        (List.cons.inj hdigit).1
      omega

theorem not_mem_hexadecimal (n : Nat) : '\x7d' ∉ Nat.toDigits 16 n := by
  have hdigit : ∀ d < 16, '\x7d' ≠ d.digitChar := by decide
  induction n using Nat.strongRecOn with
  | _ n ih =>
    rcases Nat.lt_or_ge n 16 with hn | hn
    · rw [Nat.toDigits_of_lt_base hn, List.mem_singleton]
      exact hdigit n hn
    · rw [Nat.toDigits_of_base_le (by decide) hn, List.mem_append, List.mem_singleton, not_or]
      exact ⟨ih (n / 16) (by omega), hdigit _ (Nat.mod_lt n (by decide))⟩

end Text

def unescape : Char → Char
  | '0' => '\x00'
  | 't' => '\t'
  | 'r' => '\r'
  | 'n' => '\n'
  | c => c

/-- A code point ends at its closing brace. -/
theorem codePointEscape_append_inj {c d : Char} {r s : Text}
    (h : codePointEscape c ++ r = codePointEscape d ++ s) : c = d ∧ r = s := by
  simp only [codePointEscape, List.append_assoc, List.cons_append, List.nil_append, List.cons.injEq,
    true_and] at h
  obtain ⟨hdigits, hrest⟩ := Text.append_cons_inj (Text.not_mem_hexadecimal _)
    (Text.not_mem_hexadecimal _) h
  exact ⟨Char.toNat_inj.mp (Text.hexadecimal_inj hdigits), hrest⟩

section
variable {delimiter : Char} (hdelimiter : delimiter = '"' ∨ delimiter = '\'')
include hdelimiter

/-- A character stands for itself, or it is escaped by one other or by its code point. -/
theorem escapeChar_cases (c : Char) :
    (escapeChar delimiter c = [c] ∧ c ≠ '\\' ∧ c ≠ delimiter) ∨
      (∃ mark, escapeChar delimiter c = ['\\', mark] ∧ mark ≠ 'u' ∧ unescape mark = c) ∨
      escapeChar delimiter c = codePointEscape c := by
  unfold escapeChar
  split
  · exact .inr (.inl ⟨'0', rfl, by decide, rfl⟩)
  · exact .inr (.inl ⟨'t', rfl, by decide, rfl⟩)
  · exact .inr (.inl ⟨'r', rfl, by decide, rfl⟩)
  · exact .inr (.inl ⟨'n', rfl, by decide, rfl⟩)
  · exact .inr (.inl ⟨'\\', rfl, by decide, rfl⟩)
  · rename_i hbackslash
    split
    · rename_i hc
      rw [beq_iff_eq] at hc
      subst hc
      refine .inr (.inl ⟨c, rfl, ?_⟩)
      rcases hdelimiter with rfl | rfl <;> exact ⟨by decide, rfl⟩
    · rename_i hc
      rw [beq_iff_eq] at hc
      split
      · exact .inr (.inr rfl)
      · exact .inl ⟨rfl, hbackslash, hc⟩

/-- Where an escaped character ends is seen from its beginning. -/
theorem escapeChar_append_inj {c d : Char} {r s : Text}
    (h : escapeChar delimiter c ++ r = escapeChar delimiter d ++ s) : c = d ∧ r = s := by
  have hcode (e : Char) : codePointEscape e =
      '\\' :: 'u' :: (['\x7b'] ++ Nat.toDigits 16 e.toNat ++ ['\x7d']) := rfl
  rcases escapeChar_cases hdelimiter c with ⟨hc, hplain, -⟩ | ⟨m, hc, hm, hmean⟩ | hc <;>
    rcases escapeChar_cases hdelimiter d with ⟨hd, hplain', -⟩ | ⟨m', hd, hm', hmean'⟩ | hd <;>
    rw [hc, hd] at h
  · exact ⟨(List.cons.inj h).1, (List.cons.inj h).2⟩
  · exact absurd (List.cons.inj h).1 hplain
  · exact absurd (List.cons.inj h).1 hplain
  · exact absurd (List.cons.inj h).1.symm hplain'
  · obtain ⟨hmark, hrest⟩ := List.cons.inj (List.cons.inj h).2
    exact ⟨by rw [← hmean, hmark, hmean'], hrest⟩
  · rw [hcode] at h
    exact absurd (List.cons.inj (List.cons.inj h).2).1 hm
  · exact absurd (List.cons.inj h).1.symm hplain'
  · rw [hcode] at h
    exact absurd (List.cons.inj (List.cons.inj h).2).1.symm hm'
  · exact codePointEscape_append_inj h

theorem exists_escapeChar_cons (c : Char) :
    ∃ d t, escapeChar delimiter c = d :: t ∧ d ≠ delimiter := by
  have hbackslash : '\\' ≠ delimiter := by rcases hdelimiter with rfl | rfl <;> decide
  rcases escapeChar_cases hdelimiter c with ⟨hc, -, hne⟩ | ⟨m, hc, -⟩ | hc
  · exact ⟨c, [], hc, hne⟩
  · exact ⟨'\\', [m], hc, hbackslash⟩
  · exact ⟨'\\', _, hc, hbackslash⟩

/-- Escaped characters up to a delimiter. -/
theorem escaped_append_inj {t u r s : Text}
    (h : t.flatMap (escapeChar delimiter) ++ delimiter :: r =
      u.flatMap (escapeChar delimiter) ++ delimiter :: s) : t = u ∧ r = s := by
  have hend {c : Char} {v w x : Text}
      (h : delimiter :: w = escapeChar delimiter c ++ v ++ x) : False := by
    obtain ⟨d, t, hc, hne⟩ := exists_escapeChar_cons hdelimiter c
    rw [hc] at h
    exact hne (List.cons.inj h).1.symm
  induction t generalizing u with
  | nil =>
    cases u with
    | nil => exact ⟨rfl, (List.cons.inj h).2⟩
    | cons d u =>
      rw [List.flatMap_cons] at h
      exact (hend h).elim
  | cons c t ih =>
    cases u with
    | nil =>
      rw [List.flatMap_cons] at h
      exact (hend h.symm).elim
    | cons d u =>
      rw [List.flatMap_cons, List.flatMap_cons, List.append_assoc, List.append_assoc] at h
      obtain ⟨rfl, hrest⟩ := escapeChar_append_inj hdelimiter h
      obtain ⟨rfl, hrs⟩ := ih hrest
      exact ⟨rfl, hrs⟩

end

/-- A quoted text ends at the first quote that no escape has, and no two texts are quoted alike. -/
theorem Text.quoted_append_inj {t u r s : Text} (h : quoted t ++ r = quoted u ++ s) :
    t = u ∧ r = s := by
  simp only [quoted, List.append_assoc, List.cons_append, List.cons.injEq, true_and,
    List.nil_append] at h
  exact escaped_append_inj (.inl rfl) h

theorem quotedChar_append_inj {c d : Char} {r s : Text} (h : quotedChar c ++ r = quotedChar d ++ s) :
    c = d ∧ r = s := by
  simp only [quotedChar, List.append_assoc, List.cons_append, List.cons.injEq, true_and,
    List.nil_append] at h
  obtain ⟨hcd, hrest⟩ := escapeChar_append_inj (.inr rfl) h
  exact ⟨hcd, (List.cons.inj hrest).2⟩

end Sexpr
