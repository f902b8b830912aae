import Sexpr.Proofs.Placement
import Sexpr.Proofs.Prefixes
import Sexpr.SyntaxError.Diagnostic

/-! Where a source fails to be a program. The tokens in front of the blamed one begin some program; an
end of input that comes too early can be mended by more input, and every other error but an unclosed
string stays whatever comes on the lines below. -/
namespace Sexpr

/-- No further input can mend the error. An unclosed string may yet be closed. -/
def SyntaxError.isSettled : SyntaxError → Bool
  | illegal (.character _) _ | illegal (.malformedNumber _) _ => true
  | unexpected .. | numberTooLarge _ => true
  | illegal (.unterminatedString _) _ | endOfInput _ => false

/-- Places do not matter to whether a source is a program. -/
theorem exists_parse_of_lexemes {s : Text} {ts : List Token} (hts : ∀ t ∈ ts, t.isEnd = false)
    (h : lexemes s = ts.map Located.item ++ [.endOfInput]) {p : Program}
    (hp : Program.ofTokens ⟨0, 0⟩ .start ts = .ok p) : ∃ q, Program.parse s = .ok q := by
  have hitems : (tokens s).map Located.item =
      (ts ++ [Lexeme.endOfInput.unplaced]).map Located.item := by
    rw [List.map_append]
    exact h
  have hends : Program.ofTokens ⟨0, 0⟩ .start (ts ++ [Lexeme.endOfInput.unplaced]) = .ok p :=
    (Program.ofTokens_append_end .start ts ⟨0, 0⟩ hts).trans hp
  have hsame := ofTokens_unplaced_congr hitems ⟨0, 0⟩ ⟨0, 0⟩
  rw [hends] at hsame
  cases hq : Program.parse s with
  | ok q => exact ⟨q, rfl⟩
  | error e =>
    rw [Program.parse] at hq
    rw [hq] at hsame
    cases hsame

theorem spelled_of_mem_closers {l : Lexeme} (h : l ∈ closers) :
    l.Spelled ∧ l.Closed := by
  simp only [closers, List.mem_cons, List.not_mem_nil, or_false] at h
  rcases h with rfl | rfl | rfl | rfl
  · exact ⟨trivial, fun _ => nofun⟩
  · exact ⟨trivial, fun _ => nofun⟩
  · exact ⟨trivial, fun _ => nofun⟩
  · refine ⟨⟨List.cons_ne_nil _ _, ?_⟩, fun _ => nofun⟩
    intro c hc
    cases List.mem_singleton.mp hc
    decide

/-- Tokens that a reader takes can be continued to the tokens of a program. -/
theorem exists_continuation {ts : List Token} {r : Reader}
    (h : Reader.start.after? ts = some r) : ∃ ls : List Lexeme, (∀ l ∈ ls, l ∈ closers) ∧
      ∀ s, lexemes s = ts.map Located.item ++ ls ++ [.endOfInput] →
        ∃ p, Program.parse s = .ok p := by
  obtain ⟨ls, hls, p, hp⟩ := r.completes
  obtain ⟨es, hes⟩ := Program.ofTokens_append_of_after? h
  refine ⟨ls, hls, ?_⟩
  intro s hs
  have hend : ∀ t ∈ ts ++ ls.map Lexeme.unplaced, t.isEnd = false := by
    intro t ht
    rcases List.mem_append.mp ht with ht | ht
    · exact (Reader.plain_of_after? h t ht).1
    · obtain ⟨l, hl, rfl⟩ := List.mem_map.mp ht
      exact isEnd_of_mem_closers l (hls l hl)
  have hitems : (ls.map Lexeme.unplaced).map Located.item = ls := by
    rw [List.map_map]
    exact List.map_id ls
  have hprogram : Program.ofTokens ⟨0, 0⟩ .start (ts ++ ls.map Lexeme.unplaced) =
      .ok (es ++ p) := by
    have hp' : Program.ofTokens ⟨0, 0⟩ r (ls.map Lexeme.unplaced) = .ok p := hp
    rw [hes, hp']
    rfl
  apply exists_parse_of_lexemes hend _ hprogram
  rw [List.map_append, hitems]
  exact hs

/-- The lexemes that a reader takes are the first ones of some program. -/
theorem exists_program_of_after? {ts : List Token} {r : Reader}
    (h : Reader.start.after? ts = some r) (hspelled : ∀ t ∈ ts, t.item.Spelled) :
    ∃ s p, Program.parse s = .ok p ∧ ts.map Located.item <+: lexemes s := by
  obtain ⟨ls, hls, hparse⟩ := exists_continuation h
  have hplain := Reader.plain_of_after? h
  have hall : ∀ l ∈ ts.map Located.item ++ ls,
      l.Spelled ∧ l.Closed := by
    intro l hl
    rcases List.mem_append.mp hl with hl | hl
    · obtain ⟨t, ht, rfl⟩ := List.mem_map.mp hl
      exact ⟨hspelled t ht, fun body => (hplain t ht).2 _⟩
    · exact spelled_of_mem_closers (hls l hl)
  have hscan := lexemes_apart_append (fun l hl => (hall l hl).1) (fun l hl => (hall l hl).2) []
  rw [List.append_nil, lexemes_nil] at hscan
  obtain ⟨p, hp⟩ := hparse _ hscan
  refine ⟨_, p, hp, ?_⟩
  rw [hscan, List.append_assoc]
  exact List.prefix_append _ _

/-- A source whose tokens are all taken becomes a program when more is appended. -/
theorem exists_parse_append_of_after? {s : Text} {r : Reader}
    (h : Reader.start.after? (tokensBeforeEnd s) = some r) {w : Char}
    (hw : Text.isBlank w = true) : ∃ x p, Program.parse (s ++ w :: x) = .ok p := by
  obtain ⟨ls, hls, hparse⟩ := exists_continuation h
  have hclosed : ∀ t ∈ tokensBeforeEnd s, t.item.Closed :=
    fun t ht body => (Reader.plain_of_after? h t ht).2 _
  have hscan := lexemes_append_blank hclosed hw (apart ls ++ [])
  have hclosing := lexemes_apart_append (fun l hl => (spelled_of_mem_closers (hls l hl)).1)
    (fun l hl => (spelled_of_mem_closers (hls l hl)).2) []
  rw [hclosing, lexemes_nil, ← List.append_assoc] at hscan
  exact ⟨_, hparse _ hscan⟩

/-- What a settled error blames stays the lexeme that it is when the source goes on. -/
theorem closed_of_isSettled {e : SyntaxError} {t : Token} (he : e.isSettled = true)
    (h : e.Blames t) : t.isEnd = false ∧ t.item.Closed := by
  cases e with
  | illegal fault pos =>
    cases h
    refine ⟨rfl, ?_⟩
    rintro body hbody
    cases hbody
    cases he
  | unexpected expected found => exact ⟨h.2.1, fun body => h.2.2 _⟩
  | endOfInput pos => cases he
  | numberTooLarge numeral =>
    cases h
    exact ⟨rfl, fun _ => nofun⟩

/-- A settled error points at the same stretch of every source. -/
theorem labels_of_isSettled {e : SyntaxError} (he : e.isSettled = true) (a b : Source) :
    (e.diagnostic a).message = (e.diagnostic b).message ∧
      (e.diagnostic a).labels = (e.diagnostic b).labels := by
  cases e with
  | endOfInput pos => cases he
  | _ => exact ⟨rfl, rfl⟩

/-- What is appended on a new line comes too late for a settled error. -/
theorem parse_append_of_isSettled {s : Text} {before after : List Token} {t : Token} {r : Reader}
    (hs : tokens s = before ++ t :: after) (hafter : Reader.start.after? before = some r)
    {e : SyntaxError} (hblames : e.Blames t) (he : e.isSettled = true)
    (hstop : ∀ stop rest, Program.ofTokens stop r (t :: rest) = .error e) {w : Char}
    (hw : Text.isBlank w = true) (x : Text) : Program.parse (s ++ w :: x) = .error e := by
  have hplain := Reader.plain_of_after? hafter
  have hlast := closed_of_isSettled he hblames
  have hall : ∀ u ∈ before ++ [t], u.isEnd = false ∧ u.item.Closed := by
    intro u hu
    rcases List.mem_append.mp hu with hu | hu
    · exact ⟨(hplain u hu).1, fun body => (hplain u hu).2 _⟩
    · cases List.mem_singleton.mp hu
      exact hlast
  have hscan : Scans ⟨0, 0⟩ s (before ++ [t] ++ after) := by
    apply tokens_eq_iff.mp
    rw [hs, List.append_cons]
  obtain ⟨after', hscan'⟩ := hscan.exists_append_blank (fun u hu => (hall u hu).1)
    (fun u hu => (hall u hu).2) hw x
  obtain ⟨es, hes⟩ := Program.ofTokens_append_of_after? hafter
  rw [Program.parse, tokens_eq_iff.mpr hscan', List.append_assoc, hes]
  change (es ++ ·) <$> Program.ofTokens _ r (t :: after') = _
  rw [hstop]
  rfl

/-- A source that fails does so at the first token that goes on to no program. If that is the end of
input, more input can mend it; if the error is settled, no further line changes it. -/
theorem syntax_error_is_earliest {s : Text} {e : SyntaxError} (h : Program.parse s = .error e) :
    (∃ before t after, tokens s = before ++ t :: after ∧ e.Blames t ∧
        (e.isEnd = true → after = []) ∧
        ∃ s' p, Program.parse s' = .ok p ∧ before.map Located.item <+: lexemes s') ∧
      (e.isEnd = true → ∃ x p, Program.parse (s ++ '\n' :: x) = .ok p) ∧
      (e.isSettled = true → ∀ x, Program.parse (s ++ '\n' :: x) = .error e ∧
        ∀ name, (e.diagnostic ⟨name, s ++ '\n' :: x⟩).message = (e.diagnostic ⟨name, s⟩).message ∧
          (e.diagnostic ⟨name, s ++ '\n' :: x⟩).labels = (e.diagnostic ⟨name, s⟩).labels) := by
  obtain ⟨-, -, hspelled⟩ := exists_tokens_eq s
  obtain ⟨pos, htokens, hparse⟩ := Program.parse_eq_ofTokens s
  have hend := isEnd_of_mem_tokensBeforeEnd s
  have hnewline : Text.isBlank '\n' = true := by decide
  rw [hparse] at h
  rcases Program.fails_of_ofTokens hend h with
    ⟨rfl, r, hafter⟩ | ⟨before, t, after, r, heq, hafter, hblames, hstop⟩
  · refine ⟨?_, fun _ => ?_, fun he => nomatch he⟩
    · exact ⟨_, _, [], htokens, rfl, fun _ => rfl, exists_program_of_after? hafter hspelled⟩
    · exact exists_parse_append_of_after? hafter hnewline
  · have hs : tokens s = before ++ t :: (after ++ [⟨.endOfInput, pos⟩]) := by
      rw [htokens, heq, List.append_assoc, List.cons_append]
    have hne : e.isEnd = false := by
      rw [← SyntaxError.isEnd_of_blames hblames]
      exact hend t (by rw [heq]; simp)
    have hbefore : ∀ u ∈ before, u.item.Spelled :=
      fun u hu => hspelled u (heq ▸ List.mem_append_left _ hu)
    have hneither : e.isEnd ≠ true := by simp [hne]
    refine ⟨?_, fun he => absurd he hneither,
      fun he x => ⟨?_, fun name => labels_of_isSettled he _ _⟩⟩
    · exact ⟨before, t, _, hs, hblames, fun he => absurd he hneither,
        exists_program_of_after? hafter hbefore⟩
    · exact parse_append_of_isSettled hs hafter hblames he hstop hnewline x

theorem open_list_is_mended_and_stray_bracket_is_not :
    (∃ x p, Program.parse ("'(1".toList ++ '\n' :: x) = .ok p) ∧
      ∀ x, Program.parse ("(f ]".toList ++ '\n' :: x) =
        .error (.unexpected .expression ⟨.rightBracket, ⟨3, 3⟩⟩) := by
  have htokens : tokens "'(1".toList =
      [⟨.quote, ⟨0, 0⟩⟩, ⟨.leftParen, ⟨1, 1⟩⟩, ⟨.integer ['1'], ⟨2, 2⟩⟩, ⟨.endOfInput, ⟨3, 3⟩⟩] := by
    decide +kernel
  have htokens' : tokens "(f ]".toList =
      [⟨.leftParen, ⟨0, 0⟩⟩, ⟨.ident ['f'], ⟨1, 1⟩⟩, ⟨.rightBracket, ⟨3, 3⟩⟩,
        ⟨.endOfInput, ⟨4, 4⟩⟩] := by
    decide +kernel
  have hopen : Program.parse "'(1".toList = .error (.endOfInput ⟨3, 3⟩) := by
    rw [Program.parse, htokens]
    rfl
  have hstray : Program.parse "(f ]".toList =
      .error (.unexpected .expression ⟨.rightBracket, ⟨3, 3⟩⟩) := by
    rw [Program.parse, htokens']
    rfl
  exact ⟨(syntax_error_is_earliest hopen).2.1 rfl,
    fun x => ((syntax_error_is_earliest hstray).2.2 rfl x).1⟩

end Sexpr
