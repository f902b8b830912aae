import Sexpr.Token
import Sexpr.Proofs.Spelling

/-! Token streams as decompositions of the source: blanks, spelled lexemes that end where they are
cut, and blanks again at the end of input. The scanner computes the one decomposition that there is,
so facts on streams are inductions on it. Main statements: lexemes do not depend on places, and what
is appended behind a blank changes no earlier token but an unclosed string. -/
namespace Sexpr

inductive Scans : Pos → Text → List Token → Prop
  | done {p : Pos} {w : Text} (hw : ∀ c ∈ w, Text.isBlank c = true) :
    Scans p w [⟨.endOfInput, p.advance w⟩]
  | token {p : Pos} {w : Text} {l : Lexeme} {rest : Text} {ts : List Token}
    (hw : ∀ c ∈ w, Text.isBlank c = true) (hl : l.Spelled) (he : l.EndsAt rest)
    (h : Scans ((p.advance w).advance l.source) rest ts) :
    Scans p (w ++ (l.source ++ rest)) (⟨l, p.advance w⟩ :: ts)

theorem isEnd_of_spelled {l : Lexeme} (h : l.Spelled) (p : Pos) :
    Token.isEnd ⟨l, p⟩ = false := by
  cases l with
  | endOfInput => exact absurd h id
  | _ => rfl

/-- The next token is the end of input, if only blanks are left, or a spelled lexeme behind blanks that
ends where it is cut. -/
theorem Scanner.nextToken_cases (s : Scanner) :
    ((∀ c ∈ s.rest, Text.isBlank c = true) ∧ s.nextToken =
        (⟨.endOfInput, s.pos.advance s.rest⟩, ⟨s.pos.advance s.rest, [], s.ended⟩)) ∨
      ∃ w l rest, (∀ c ∈ w, Text.isBlank c = true) ∧ l.Spelled ∧ l.EndsAt rest ∧
        s.rest = w ++ (l.source ++ rest) ∧ s.nextToken =
          (⟨l, s.pos.advance w⟩, ⟨(s.pos.advance w).advance l.source, rest, s.ended⟩) := by
  have hw : ∀ c ∈ s.rest.takeWhile Text.isBlank, Text.isBlank c = true :=
    fun c h => List.all_eq_true.mp List.all_takeWhile c h
  have hsplit := List.takeWhile_append_dropWhile (p := Text.isBlank) (l := s.rest)
  cases hd : s.rest.dropWhile Text.isBlank with
  | nil =>
    rw [hd, List.append_nil] at hsplit
    rw [hsplit] at hw
    rw [nextToken_nil hd, hsplit]
    exact .inl ⟨hw, rfl⟩
  | cons c rest =>
    have hb : Text.isBlank c = false :=
      Lexeme.head?_dropWhile_eq_false s.rest c (by rw [hd]; rfl)
    obtain ⟨hl, he⟩ := Lexeme.spelled_cut hb rest
    refine .inr ⟨_, _, _, hw, hl, he, ?_, nextToken_cons hd⟩
    rw [Lexeme.cut_source, ← hd, hsplit]

theorem Scanner.scans_tokens (s : Scanner) : Scans s.pos s.rest s.tokens := by
  generalize hn : s.rest.length = n
  induction n using Nat.strongRecOn generalizing s with
  | _ n ih =>
    rcases s.nextToken_cases with ⟨hblank, hnext⟩ | ⟨w, l, rest, hw, hl, he, hrest, hnext⟩
    · rw [tokens_of_isEnd (by rw [hnext]; rfl), hnext]
      exact Scans.done hblank
    · have hend : s.nextToken.1.isEnd = false := by
        rw [hnext]
        exact isEnd_of_spelled hl _
      have hlt := length_nextToken hend
      have ih' := ih _ (hn ▸ hlt) s.nextToken.2 rfl
      rw [tokens_of_not_isEnd hend, hrest]
      rw [hnext] at ih' ⊢
      exact Scans.token hw hl he ih'

/-- The steps of a scanner lead to its tokens and to no others. -/
theorem Scans.eq_tokens {p : Pos} {t : Text} {ts : List Token} (h : Scans p t ts) :
    Scanner.tokens ⟨p, t, false⟩ = ts := by
  induction h with
  | @done p w hw =>
    have hs : (w ++ []).takeWhile Text.isBlank = w ∧ (w ++ []).dropWhile Text.isBlank = [] :=
      Lexeme.takeWhile_append_of_head? hw (by simp)
    rw [List.append_nil] at hs
    have hnext := Scanner.nextToken_nil (s := ⟨p, w, false⟩) hs.2
    rw [Scanner.tokens_of_isEnd (by rw [hnext]; rfl), hnext]
    simp only [hs.1]
  | @token p w l rest ts hw hl he h ih =>
    obtain ⟨c, r, hc, hb, hcut⟩ := Lexeme.cut_of_spelled hl he
    have hhead : ∀ d ∈ (l.source ++ rest).head?, Text.isBlank d = false := by
      simp [hc, hb]
    have hs := Lexeme.takeWhile_append_of_head? hw hhead
    have hd : (Scanner.mk p (w ++ (l.source ++ rest)) false).rest.dropWhile Text.isBlank =
        c :: (r ++ rest) := by
      change (w ++ (l.source ++ rest)).dropWhile Text.isBlank = c :: (r ++ rest)
      rw [hs.2, hc, List.cons_append]
    have hnext := Scanner.nextToken_cons hd
    simp only [hcut, hs.1] at hnext
    rw [Scanner.tokens_of_not_isEnd (by rw [hnext]; exact isEnd_of_spelled hl _), hnext]
    simp only [ih]

/-- The stream of a source is its one decomposition. -/
theorem tokens_eq_iff {source : Text} {ts : List Token} :
    tokens source = ts ↔ Scans ⟨0, 0⟩ source ts := by
  constructor
  · rintro rfl
    exact Scanner.scans_tokens (Scanner.start source)
  · exact Scans.eq_tokens

theorem scans_tokens (source : Text) : Scans ⟨0, 0⟩ source (tokens source) :=
  tokens_eq_iff.mp rfl

namespace Scans

theorem exists_tokens (p : Pos) (t : Text) : ∃ ts, Scans p t ts :=
  ⟨_, Scanner.scans_tokens ⟨p, t, false⟩⟩

/-- The stream ends with the end of input, and all before it is spelled. -/
theorem exists_body {p : Pos} {t : Text} {ts : List Token} (h : Scans p t ts) :
    ∃ body q, ts = body ++ [⟨.endOfInput, q⟩] ∧ ∀ u ∈ body, u.item.Spelled := by
  induction h with
  | done hw => exact ⟨[], _, rfl, fun _ h => absurd h List.not_mem_nil⟩
  | @token p w l rest ts hw hl he h ih =>
    obtain ⟨body, q, rfl, hall⟩ := ih
    refine ⟨⟨l, p.advance w⟩ :: body, q, rfl, ?_⟩
    intro u hu
    rcases List.mem_cons.mp hu with rfl | hu
    · exact hl
    · exact hall u hu

/-- A token that is not the last was cut behind blanks. -/
theorem exists_of_cons {p : Pos} {a : Text} {t : Token} {ts : List Token}
    (h : Scans p a (t :: ts)) (ht : t.isEnd = false) :
    ∃ v rest, (∀ c ∈ v, Text.isBlank c = true) ∧ a = v ++ (t.item.source ++ rest) ∧
      t.pos = p.advance v ∧ t.item.Spelled ∧ t.item.EndsAt rest ∧
      Scans (t.pos.advance t.item.source) rest ts := by
  cases h with
  | done _ => exact absurd ht (by simp [Token.isEnd])
  | token hv hl he h => exact ⟨_, _, hv, rfl, rfl, hl, he, h⟩

theorem blanks_append {p : Pos} {v t : Text} {ts : List Token}
    (hv : ∀ c ∈ v, Text.isBlank c = true) (h : Scans (p.advance v) t ts) :
    Scans p (v ++ t) ts := by
  have hboth {w : Text} (hw : ∀ c ∈ w, Text.isBlank c = true) :
      ∀ c ∈ v ++ w, Text.isBlank c = true := by
    intro c hc
    exact (List.mem_append.mp hc).elim (hv c) (hw c)
  generalize hq : p.advance v = q at h
  cases h with
  | done hw =>
    rw [← hq, ← Pos.advance_append]
    exact done (hboth hw)
  | @token _ w l rest ts hw hl he h =>
    have hp : q.advance w = p.advance (v ++ w) := by rw [← hq, Pos.advance_append]
    rw [hp] at h ⊢
    rw [← List.append_assoc]
    exact token (hboth hw) hl he h

/-- Places are carried along and decide nothing. -/
theorem relocate {p : Pos} {t : Text} {ts : List Token} (h : Scans p t ts) (q : Pos) :
    ∃ us, Scans q t us ∧ us.map Located.item = ts.map Located.item := by
  induction h generalizing q with
  | done hw => exact ⟨_, done hw, rfl⟩
  | token hw hl he h ih =>
    obtain ⟨us, hus, heq⟩ := ih _
    exact ⟨_, token hw hl he hus, by rw [List.map_cons, List.map_cons, heq]⟩

/-- What is appended behind a blank changes nothing before the first unclosed string: the text splits
there, and only its second part is scanned anew. -/
theorem exists_split {p : Pos} {a : Text} {before after : List Token}
    (h : Scans p a (before ++ after)) (hend : ∀ t ∈ before, t.isEnd = false)
    (hclosed : ∀ t ∈ before, t.item.Closed)
    {w : Char} (hw : Text.isBlank w = true) (b : Text) :
    ∃ u rest, a = u ++ rest ∧ Scans (p.advance u) rest after ∧
      ∀ ts, Scans (p.advance u) (rest ++ w :: b) ts → Scans p (a ++ w :: b) (before ++ ts) := by
  -- each token in front still ends where it ended, because the blank behind the text says nothing
  induction before generalizing p a with
  | nil => exact ⟨[], a, rfl, h, fun ts hts => hts⟩
  | cons t before ih =>
    obtain ⟨v, rest, hv, rfl, hp, hl, he, h⟩ := h.exists_of_cons (hend t List.mem_cons_self)
    obtain ⟨u, rest', rfl, hrest, hscan⟩ := ih h (fun u hu => hend u (List.mem_cons_of_mem _ hu))
      (fun u hu => hclosed u (List.mem_cons_of_mem _ hu))
    have hadv : p.advance (v ++ (t.item.source ++ u)) = (t.pos.advance t.item.source).advance u := by
      rw [Pos.advance_append, Pos.advance_append, hp]
    refine ⟨v ++ (t.item.source ++ u), rest', by simp only [List.append_assoc], ?_, ?_⟩
    · rw [hadv]
      exact hrest
    · intro ts hts
      rw [hadv] at hts
      have hts' := hscan ts hts
      have he' := Lexeme.endsAt_append_blank (hclosed t List.mem_cons_self) he hw b
      rw [hp] at hts'
      have htoken := token hv hl he' hts'
      rw [← hp] at htoken
      simp only [List.append_assoc, List.cons_append] at htoken ⊢
      exact htoken

theorem exists_append_blank {p : Pos} {a : Text} {before after : List Token}
    (h : Scans p a (before ++ after)) (hend : ∀ t ∈ before, t.isEnd = false)
    (hclosed : ∀ t ∈ before, t.item.Closed)
    {w : Char} (hw : Text.isBlank w = true) (b : Text) :
    ∃ after', Scans p (a ++ w :: b) (before ++ after') := by
  obtain ⟨u, rest, -, -, hscan⟩ := h.exists_split hend hclosed hw b
  obtain ⟨ts, hts⟩ := exists_tokens (p.advance u) (rest ++ w :: b)
  exact ⟨ts, hscan ts hts⟩

/-- A text without an unclosed string and a text behind a blank are scanned apart. -/
theorem append_blank {p q : Pos} {a : Text} {body : List Token}
    (h : Scans p a (body ++ [⟨.endOfInput, q⟩])) (hend : ∀ t ∈ body, t.isEnd = false)
    (hclosed : ∀ t ∈ body, t.item.Closed)
    {w : Char} (hw : Text.isBlank w = true) {b : Text} {us : List Token}
    (hb : Scans (p.advance a) (w :: b) us) : Scans p (a ++ w :: b) (body ++ us) := by
  obtain ⟨u, rest, rfl, hrest, hscan⟩ := h.exists_split hend hclosed hw b
  rw [Pos.advance_append] at hb
  cases hrest with
  | done hv => exact hscan us (blanks_append hv hb)
  | token _ hl _ _ => exact absurd hl id

end Scans

def lexemes (t : Text) : List Lexeme :=
  (tokens t).map Located.item

theorem Scans.lexemes_eq {p : Pos} {t : Text} {ts : List Token} (h : Scans p t ts) :
    lexemes t = ts.map Located.item := by
  obtain ⟨us, hus, heq⟩ := h.relocate ⟨0, 0⟩
  rw [lexemes, tokens_eq_iff.mpr hus, heq]

theorem lexemes_of_blanks {w : Text} (hw : ∀ c ∈ w, Text.isBlank c = true) :
    lexemes w = [.endOfInput] :=
  (Scans.done (p := ⟨0, 0⟩) hw).lexemes_eq

theorem lexemes_nil : lexemes [] = [.endOfInput] :=
  lexemes_of_blanks fun _ hc => absurd hc List.not_mem_nil

theorem lexemes_blanks_append {w : Text} (hw : ∀ c ∈ w, Text.isBlank c = true) (t : Text) :
    lexemes (w ++ t) = lexemes t := by
  obtain ⟨ts, hts⟩ := Scans.exists_tokens (Pos.advance ⟨0, 0⟩ w) t
  rw [(hts.blanks_append hw).lexemes_eq, hts.lexemes_eq]

/-- A lexeme that can end where it ends is cut first. -/
theorem lexemes_source_append {l : Lexeme} (hl : l.Spelled) {rest : Text} (he : l.EndsAt rest) :
    lexemes (l.source ++ rest) = l :: lexemes rest := by
  obtain ⟨ts, hts⟩ := Scans.exists_tokens (Pos.advance ⟨0, 0⟩ l.source) rest
  have hnil : ∀ c ∈ ([] : Text), Text.isBlank c = true := fun _ h => absurd h List.not_mem_nil
  have htoken := Scans.token (p := ⟨0, 0⟩) hnil hl he hts
  rw [List.nil_append] at htoken
  rw [htoken.lexemes_eq, hts.lexemes_eq, List.map_cons]

def tokensBeforeEnd (source : Text) : List Token :=
  (tokens source).takeWhile fun t => !t.isEnd

/-- One end of input stands behind all tokens, and each of those is spelled as its kind is. -/
theorem exists_tokens_eq (source : Text) :
    ∃ p, tokens source = tokensBeforeEnd source ++ [⟨.endOfInput, p⟩] ∧
      ∀ t ∈ tokensBeforeEnd source, t.item.Spelled := by
  obtain ⟨body, p, hts, hall⟩ := (scans_tokens source).exists_body
  have hbody : tokensBeforeEnd source = body := by
    rw [tokensBeforeEnd, hts, List.takeWhile_append_of_pos]
    · simp [Token.isEnd]
    · intro t ht
      rw [isEnd_of_spelled (hall t ht) t.pos]
      rfl
  exact ⟨p, by rw [hbody, hts], by rw [hbody]; exact hall⟩

theorem isEnd_of_mem_tokensBeforeEnd (source : Text) :
    ∀ t ∈ tokensBeforeEnd source, t.isEnd = false := by
  obtain ⟨-, -, hspelled⟩ := exists_tokens_eq source
  exact fun t ht => isEnd_of_spelled (hspelled t ht) t.pos

def apart (ls : List Lexeme) : Text :=
  ls.flatMap fun l => l.source ++ [' ']

/-- Set apart, lexemes are scanned as they are. -/
theorem lexemes_apart_append {ls : List Lexeme} (hspelled : ∀ l ∈ ls, l.Spelled)
    (hclosed : ∀ l ∈ ls, l.Closed) (rest : Text) :
    lexemes (apart ls ++ rest) = ls ++ lexemes rest := by
  induction ls with
  | nil => rfl
  | cons l ls ih =>
    have hblank : Text.isBlank ' ' = true := by decide
    have hend : l.EndsAt (' ' :: (apart ls ++ rest)) :=
      Lexeme.endsAt_append_blank (hclosed l List.mem_cons_self) (Lexeme.endsAt_nil l) hblank _
    have hskip : lexemes ([' '] ++ (apart ls ++ rest)) = lexemes (apart ls ++ rest) :=
      lexemes_blanks_append (by simp [hblank]) _
    have ih' := ih (fun d hd => hspelled d (List.mem_cons_of_mem l hd))
      fun d hd => hclosed d (List.mem_cons_of_mem l hd)
    have htext : apart (l :: ls) ++ rest = l.source ++ (' ' :: (apart ls ++ rest)) := by
      simp [apart]
    calc lexemes (apart (l :: ls) ++ rest)
        = l :: lexemes (' ' :: (apart ls ++ rest)) := by
          rw [htext, lexemes_source_append (hspelled l List.mem_cons_self) hend]
      _ = l :: lexemes (apart ls ++ rest) := congrArg (l :: ·) hskip
      _ = l :: ls ++ lexemes rest := by rw [ih', List.cons_append]

/-- A source without an unclosed string and a text behind a blank have their lexemes apart. -/
theorem lexemes_append_blank {s : Text}
    (hclosed : ∀ t ∈ tokensBeforeEnd s, t.item.Closed)
    {w : Char} (hw : Text.isBlank w = true) (b : Text) :
    lexemes (s ++ w :: b) = (tokensBeforeEnd s).map Located.item ++ lexemes b := by
  obtain ⟨p, htokens, -⟩ := exists_tokens_eq s
  have hend := isEnd_of_mem_tokensBeforeEnd s
  obtain ⟨us, hus⟩ := Scans.exists_tokens (Pos.advance ⟨0, 0⟩ s) (w :: b)
  have hskip : lexemes ([w] ++ b) = lexemes b := lexemes_blanks_append (by simp [hw]) b
  have hscan := (tokens_eq_iff.mp htokens).append_blank hend hclosed hw hus
  rw [hscan.lexemes_eq, List.map_append, ← hus.lexemes_eq]
  exact congrArg (_ ++ ·) hskip

end Sexpr
