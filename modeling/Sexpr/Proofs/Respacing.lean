import Sexpr.Proofs.Running

/-! Blanks between tokens. A lexeme stands for itself in front of every blank and at the end of a text,
whatever it was glued to in the source that it comes from; only an unclosed string cannot be followed
by anything, and in a source nothing follows it. Main statement: a source whose tokens are set apart
anew has the same lexemes, and so it is read and run alike. -/
namespace Sexpr

structure Gap where
  text : Text
  ne_nil : text ≠ []
  isBlank : ∀ c ∈ text, Text.isBlank c = true

def spread (gap : Nat → Gap) : List Lexeme → Text
  | [] => []
  | [l] => l.source
  | l :: m :: ls => l.source ++ ((gap 0).text ++ spread (fun n => gap (n + 1)) (m :: ls))

/-- The source with its blanks replaced by other ones, and none at its ends. -/
def respaced (gap : Nat → Gap) (source : Text) : Text :=
  spread gap ((tokensBeforeEnd source).map Located.item)

namespace Lexeme

/-- A gap ends every lexeme that can be followed by something. -/
theorem endsAt_gap {l : Lexeme} (hl : l.Closed) (gap : Gap) (rest : Text) :
    l.EndsAt (gap.text ++ rest) := by
  obtain ⟨w, ws, hcons⟩ := List.exists_cons_of_ne_nil gap.ne_nil
  have hw : Text.isBlank w = true := gap.isBlank w (by rw [hcons]; exact List.mem_cons_self)
  rw [hcons]
  exact endsAt_append_blank hl (endsAt_nil l) hw (ws ++ rest)

end Lexeme

theorem Scans.eq_of_nil {p : Pos} {ts : List Token} (h : Scans p [] ts) :
    ts = [⟨.endOfInput, p⟩] := by
  rw [← h.eq_tokens, Scanner.tokens_of_isEnd rfl]
  rfl

/-- Only the last token in front of the end of input can be an unclosed string. -/
theorem Scans.closed_of_mem_dropLast {p q : Pos} {t : Text} {body : List Token}
    (h : Scans p t (body ++ [⟨.endOfInput, q⟩])) : ∀ u ∈ body.dropLast, u.item.Closed := by
  induction body generalizing p t with
  | nil => exact fun _ hu => absurd hu List.not_mem_nil
  | cons v body ih =>
    cases body with
    | nil => exact fun _ hu => absurd hu List.not_mem_nil
    | cons v' body =>
      cases h with
      | token hw hl he h =>
        intro u hu
        rcases List.mem_cons.mp hu with rfl | hu
        · intro unclosed heq
          subst heq
          have hrest : _ = [] := he
          subst hrest
          have hlength := congrArg List.length h.eq_of_nil
          simp at hlength
        · exact ih h u hu

/-- Lexemes that are set apart are scanned as they are. -/
theorem lexemes_spread {ls : List Lexeme} (hspelled : ∀ l ∈ ls, l.Spelled)
    (hclosed : ∀ l ∈ ls.dropLast, l.Closed) (gap : Nat → Gap) :
    lexemes (spread gap ls) = ls ++ [.endOfInput] := by
  induction ls generalizing gap with
  | nil => exact lexemes_nil
  | cons l ls ih =>
    have hl := hspelled l List.mem_cons_self
    cases ls with
    | nil =>
      have hscan := lexemes_source_append hl l.endsAt_nil
      rw [List.append_nil, lexemes_nil] at hscan
      exact hscan
    | cons m ls =>
      have hend := Lexeme.endsAt_gap (hclosed l List.mem_cons_self) (gap 0)
        (spread (fun n => gap (n + 1)) (m :: ls))
      have ih' := ih (fun d hd => hspelled d (List.mem_cons_of_mem l hd))
        (fun d hd => hclosed d (List.mem_cons_of_mem l hd)) fun n => gap (n + 1)
      calc lexemes (spread gap (l :: m :: ls))
          = l :: lexemes ((gap 0).text ++ spread (fun n => gap (n + 1)) (m :: ls)) :=
            lexemes_source_append hl hend
        _ = l :: lexemes (spread (fun n => gap (n + 1)) (m :: ls)) := by
            rw [lexemes_blanks_append (gap 0).isBlank]
        _ = l :: (m :: ls ++ [.endOfInput]) := by rw [ih']

/-- Other gaps leave the lexemes as they are. -/
theorem lexemes_respaced (gap : Nat → Gap) (source : Text) :
    lexemes (respaced gap source) = lexemes source := by
  obtain ⟨p, htokens, hspelled⟩ := exists_tokens_eq source
  have hclosed := (tokens_eq_iff.mp htokens).closed_of_mem_dropLast
  have hscan : lexemes (respaced gap source) =
      (tokensBeforeEnd source).map Located.item ++ [.endOfInput] := by
    apply lexemes_spread
    · intro l hl
      obtain ⟨t, ht, rfl⟩ := List.mem_map.mp hl
      exact hspelled t ht
    · rw [← List.map_dropLast]
      intro l hl
      obtain ⟨t, ht, rfl⟩ := List.mem_map.mp hl
      exact hclosed t ht
  rw [hscan, lexemes, htokens, List.map_append]
  rfl

/-- Blanks between tokens mean nothing: set apart in any way, the tokens of a source are scanned as
the same lexemes, read as the same program or refused in the same words, and run alike in every
session. -/
theorem respaced_source_reads_and_runs_alike (hasRoom : Nat → Bool) (source : Text)
    (gap : Nat → Gap) :
    lexemes (respaced gap source) = lexemes source ∧
      Program.unplaced (Program.parse (respaced gap source)) =
        Program.unplaced (Program.parse source) ∧
      (∀ d e, Program.parse (respaced gap source) = .error d → Program.parse source = .error e →
        d.message = e.message ∧ d.code = e.code ∧ d.help = e.help) ∧
      ∀ session : Session,
        (session.run hasRoom (respaced gap source)).2 = (session.run hasRoom source).2 ∧
          (session.run hasRoom (respaced gap source)).1.Alike (session.run hasRoom source).1 := by
  have hlexemes := lexemes_respaced gap source
  have hparse := parse_unplaced_congr hlexemes
  refine ⟨hlexemes, hparse, ?_, Session.run_alike hparse⟩
  intro d e hd he
  rw [hd, he] at hparse
  exact SyntaxError.wording_congr (Except.error.inj hparse)

/-- Glued tokens, among them a quoted list of characters and a fault, come apart. -/
example : respaced (fun n => ⟨'\n' :: List.replicate n '\t', by simp, by simp [Text.isBlank]⟩)
    " '('a'x1\"s\"#".toList = "'\n(\n\t'a'\n\t\tx\n\t\t\t1\n\t\t\t\t\"s\"\n\t\t\t\t\t#".toList := by
  decide +kernel

end Sexpr
