import Sexpr.Proofs.Grammar

/-! What a reader can still do part way through a source. A reader that has taken all tokens so far
can be brought to the end by tokens that close what is open, whatever that is; and when it stops at a
token, nothing behind that token matters. So each error blames the first token that cannot go on to
a program. -/
namespace Sexpr

/-- The error is about this token. A token is unexpected only if nothing else is wrong with it. -/
def SyntaxError.Blames : SyntaxError → Token → Prop
  | illegal fault pos, t => t = ⟨.illegal fault, pos⟩
  | unexpected _ found, t => t = found ∧ t.isEnd = false ∧ ∀ fault, t.item ≠ .illegal fault
  | endOfInput pos, t => t = ⟨.endOfInput, pos⟩
  | numberTooLarge numeral, t => t = ⟨.integer numeral.item, numeral.pos⟩

namespace SyntaxError

def isEnd : SyntaxError → Bool
  | endOfInput _ => true
  | _ => false

/-- The error points at the token that it blames; at the end of input it points at what is in front. -/
theorem span_of_blames {e : SyntaxError} {t : Token} (h : e.Blames t) (he : e.isEnd = false)
    (source : Text) : e.span source = t.span := by
  cases e with
  | illegal fault pos =>
    cases h
    rfl
  | unexpected expected found => rw [h.1, span]
  | endOfInput pos => cases he
  | numberTooLarge numeral =>
    cases h
    rfl

theorem isEnd_of_blames {e : SyntaxError} {t : Token} (h : e.Blames t) : t.isEnd = e.isEnd := by
  cases e with
  | unexpected expected found => exact h.2.1
  | _ =>
    cases h
    rfl

end SyntaxError

def Move.Blames : Move → Token → Prop
  | .more _, _ | .whole _, _ => True
  | .refused e, t | .spoiled e, t => e.Blames t

def Lexeme.isPart : Lexeme → Bool
  | .colon | .illegal _ | .endOfInput => false
  | _ => true

/-- What a move tells of its token: one that is taken is a part of some form, also where its numeral
is too large; one that is not taken has an error of its own. -/
def Move.Explains : Move → Token → Prop
  | .more _, t | .whole _, t => t.item.isPart = true
  | .refused e, t => ∃ expected, e = t.refusal expected
  | .spoiled e, t => ∃ numeral, t.item = .integer numeral ∧ e = .numberTooLarge ⟨numeral, t.pos⟩

theorem Token.plain_of_isPart {t : Token} (h : t.item.isPart = true) :
    t.isEnd = false ∧ ∀ fault, t.item ≠ .illegal fault := by
  obtain ⟨l, p⟩ := t
  cases l with
  | illegal fault => cases h
  | endOfInput => cases h
  | _ => exact ⟨rfl, fun _ => nofun⟩

/-- The refusal of a token is about that token. -/
theorem Token.blames_refusal (t : Token) (expected : Expected) : (t.refusal expected).Blames t := by
  obtain ⟨l, p⟩ := t
  cases l with
  | illegal fault => rfl
  | endOfInput => rfl
  | _ => exact ⟨rfl, rfl, fun _ => nofun⟩

theorem Move.Explains.blames {m : Move} {t : Token} (h : m.Explains t) : m.Blames t := by
  cases m with
  | more r => trivial
  | whole e => trivial
  | refused e =>
    obtain ⟨expected, rfl⟩ := h
    exact t.blames_refusal expected
  | spoiled e =>
    obtain ⟨numeral, hitem, rfl⟩ := h
    change t = ⟨.integer numeral, t.pos⟩
    rw [← hitem]

namespace Reader

theorem explains_fill {t : Token} (ht : t.item.isPart = true) (e : Expr) (frames : List Frame) :
    (fill e frames).Explains t := by
  cases frames with
  | nil => exact ht
  | cons f frames => cases f <;> exact ht

theorem explains_begin (frames : List Frame) (t : Token) : (begin frames t).Explains t := by
  obtain ⟨l, p⟩ := t
  cases l with
  | leftParen => rfl
  | quote => rfl
  | leftBracket => rfl
  | ident name => exact explains_fill rfl _ frames
  | integer numeral =>
    cases hv : int64? (numeralValue numeral) with
    | none =>
      simp only [begin, hv]
      exact ⟨numeral, rfl, rfl⟩
    | some value =>
      simp only [begin, hv]
      exact explains_fill rfl _ frames
  | float numeral => exact explains_fill rfl _ frames
  | string body => exact explains_fill rfl _ frames
  | character c => exact explains_fill rfl _ frames
  | _ => exact ⟨.expression, rfl⟩

theorem explains_item (frames : List Frame) (t : Token) : (item frames t).Explains t := by
  have hcloser {l : Lexeme} (hitem : t.item = l) (hl : l.isPart = true) (e : Expr)
      (frames : List Frame) : (fill e frames).Explains t := by
    apply explains_fill
    rw [hitem, hl]
  unfold item
  split
  · rename_i hitem
    exact hcloser hitem rfl _ _
  · rename_i hitem
    exact hcloser hitem rfl _ _
  · rename_i hitem
    exact hcloser hitem rfl _ _
  · exact explains_begin _ t

/-- Every move is explained by its token, whatever is open. -/
theorem explains_step (r : Reader) (t : Token) : (r.step t).Explains t := by
  obtain ⟨wanted, frames⟩ := r
  obtain ⟨l, p⟩ := t
  cases wanted with
  | item => exact explains_item frames ⟨l, p⟩
  | callee o =>
    cases l with
    | ident name =>
      by_cases hname : name = Expr.defvarWord
      · simp only [step, if_pos hname]
        rfl
      · simp only [step, if_neg hname]
        rfl
    | _ => exact ⟨.identifier, rfl⟩
  | elements q =>
    cases l with
    | leftParen => rfl
    | _ => exact ⟨.opening, rfl⟩
  | name k =>
    cases l with
    | ident name => rfl
    | _ => exact ⟨.identifier, rfl⟩
  | doc k name value =>
    cases l with
    | string body => rfl
    | rightParen => exact explains_fill rfl _ frames
    | _ => exact ⟨.closing, rfl⟩
  | closing k name value doc =>
    cases l with
    | rightParen => exact explains_fill rfl _ frames
    | _ => exact ⟨.closing, rfl⟩

/-- The reader behind some tokens, if it takes them all. Behind a whole expression it starts anew. -/
def after? : Reader → List Token → Option Reader
  | r, [] => some r
  | r, t :: ts =>
    match r.step t with
    | .more r' => after? r' ts
    | .whole _ => after? start ts
    | .refused _ | .spoiled _ => none

/-- A reader takes nothing but parts of forms. -/
theorem isPart_of_after? {r r' : Reader} {ts : List Token} (h : r.after? ts = some r') :
    ∀ t ∈ ts, t.item.isPart = true := by
  induction ts generalizing r with
  | nil => exact fun _ ht => absurd ht List.not_mem_nil
  | cons u ts ih =>
    have hexplains := r.explains_step u
    intro t ht
    cases hm : r.step u with
    | more r₁ =>
      simp only [after?, hm] at h
      rw [hm] at hexplains
      rcases List.mem_cons.mp ht with rfl | ht
      · exact hexplains
      · exact ih h t ht
    | whole e =>
      simp only [after?, hm] at h
      rw [hm] at hexplains
      rcases List.mem_cons.mp ht with rfl | ht
      · exact hexplains
      · exact ih h t ht
    | refused e => simp [after?, hm] at h
    | spoiled e => simp [after?, hm] at h

theorem plain_of_after? {r r' : Reader} {ts : List Token} (h : r.after? ts = some r') :
    ∀ t ∈ ts, t.isEnd = false ∧ ∀ fault, t.item ≠ .illegal fault :=
  fun t ht => Token.plain_of_isPart (isPart_of_after? h t ht)

end Reader

namespace Program

variable {stop : Pos}

/-- Reading goes on behind the tokens that were taken, and has some expressions in front. -/
theorem ofTokens_append_of_after? {r r' : Reader} {ts : List Token} (h : r.after? ts = some r') :
    ∃ es, ∀ stop rest, ofTokens stop r (ts ++ rest) = (es ++ ·) <$> ofTokens stop r' rest := by
  induction ts generalizing r with
  | nil =>
    cases h
    refine ⟨[], fun stop rest => ?_⟩
    rw [List.nil_append]
    cases ofTokens stop r' rest <;> rfl
  | cons t ts ih =>
    have ht := (Reader.plain_of_after? h t List.mem_cons_self).1
    cases hm : r.step t with
    | more r₁ =>
      simp only [Reader.after?, hm] at h
      obtain ⟨es, hes⟩ := ih h
      refine ⟨es, fun stop rest => ?_⟩
      rw [List.cons_append, ofTokens_cons ht, hm]
      exact hes stop rest
    | whole e =>
      simp only [Reader.after?, hm] at h
      obtain ⟨es, hes⟩ := ih h
      refine ⟨e :: es, fun stop rest => ?_⟩
      rw [List.cons_append, ofTokens_cons ht, hm, Move.goOn, hes]
      cases ofTokens stop r' rest <;> rfl
    | refused e => simp [Reader.after?, hm] at h
    | spoiled e => simp [Reader.after?, hm] at h

/-- All tokens of a program are taken, and nothing is left open. -/
theorem after?_of_ofTokens {r : Reader} {ts : List Token} (hts : ∀ t ∈ ts, t.isEnd = false)
    {p : Program} (h : ofTokens stop r ts = .ok p) : r.after? ts = some .start := by
  induction ts generalizing r p with
  | nil =>
    rw [ofTokens] at h
    split at h
    · rename_i hr
      rw [eq_start_of_isStart hr]
      rfl
    · cases h
  | cons t ts ih =>
    have hts' : ∀ u ∈ ts, u.isEnd = false := fun u hu => hts u (List.mem_cons_of_mem t hu)
    rw [ofTokens_cons (hts t List.mem_cons_self)] at h
    rw [Reader.after?]
    cases hm : r.step t with
    | more r' =>
      rw [hm] at h
      exact ih hts' h
    | whole e =>
      rw [hm, Move.goOn] at h
      cases hq : ofTokens stop .start ts with
      | ok q => exact ih hts' hq
      | error err =>
        rw [hq] at h
        cases h
    | refused e =>
      rw [hm] at h
      cases h
    | spoiled e =>
      rw [hm] at h
      cases h

/-- How a reader fails on some tokens: it takes them all and wants more, or it stops at one of them,
with the error that it stops with whatever is behind. -/
def Fails (stop : Pos) (r : Reader) (us : List Token) (e : SyntaxError) : Prop :=
  (e = .endOfInput stop ∧ ∃ r', r.after? us = some r') ∨
    ∃ before t after r', us = before ++ t :: after ∧ r.after? before = some r' ∧ e.Blames t ∧
      ∀ stop rest, ofTokens stop r' (t :: rest) = .error e

/-- A failure is either that more is wanted or that one token is to blame. -/
theorem fails_of_ofTokens {r : Reader} {us : List Token} (hus : ∀ t ∈ us, t.isEnd = false)
    {e : SyntaxError} (h : ofTokens stop r us = .error e) : Fails stop r us e := by
  induction us generalizing r e with
  | nil =>
    rw [ofTokens] at h
    split at h
    · cases h
    · cases h
      exact .inl ⟨rfl, r, rfl⟩
  | cons t us ih =>
    have ht := hus t List.mem_cons_self
    have hus' : ∀ u ∈ us, u.isEnd = false := fun u hu => hus u (List.mem_cons_of_mem t hu)
    have hblames := (r.explains_step t).blames
    have hcons {r₁ : Reader} (hafter : ∀ ts, r.after? (t :: ts) = r₁.after? ts)
        (herror : ofTokens stop r₁ us = .error e) : Fails stop r (t :: us) e := by
      rcases ih hus' herror with ⟨he, r', hr'⟩ | ⟨before, u, after, r', rfl, hr', hu, hrest⟩
      · exact .inl ⟨he, r', (hafter us).trans hr'⟩
      · exact .inr ⟨t :: before, u, after, r', rfl, (hafter before).trans hr', hu, hrest⟩
    have hstop (hblames : e.Blames t) (hgo : ∀ stop rest, (r.step t).goOn stop rest = .error e) :
        Fails stop r (t :: us) e :=
      .inr ⟨[], t, us, r, rfl, rfl, hblames,
        fun stop rest => (ofTokens_cons ht r rest).trans (hgo stop rest)⟩
    cases hm : r.step t with
    | more r₁ =>
      rw [ofTokens_cons ht, hm] at h
      exact hcons (fun ts => by simp only [Reader.after?, hm]) h
    | whole e' =>
      rw [ofTokens_cons ht, hm, Move.goOn] at h
      cases hq : ofTokens stop .start us with
      | ok q =>
        rw [hq] at h
        cases h
      | error err =>
        rw [hq] at h
        cases h
        exact hcons (fun ts => by simp only [Reader.after?, hm]) hq
    | refused err =>
      rw [ofTokens_cons ht, hm] at h
      cases h
      rw [hm] at hblames
      exact hstop hblames fun stop rest => by rw [hm, Move.goOn]
    | spoiled err =>
      rw [ofTokens_cons ht, hm] at h
      cases h
      rw [hm] at hblames
      exact hstop hblames fun stop rest => by rw [hm, Move.goOn]

/-- A source that is no program is refused at one of its tokens, and those in front of it are taken. -/
theorem exists_blamed {source : Text} {e : SyntaxError} (h : parse source = .error e) :
    ∃ before t after r, tokens source = before ++ t :: after ∧
      Reader.start.after? before = some r ∧ e.Blames t ∧ (e.isEnd = true → after = []) := by
  obtain ⟨pos, htokens, hparse⟩ := parse_eq_ofTokens source
  have hend := isEnd_of_mem_tokensBeforeEnd source
  rw [hparse] at h
  rcases fails_of_ofTokens hend h with ⟨rfl, r, hr⟩ | ⟨before, t, after, r, heq, hr, hblames, -⟩
  · exact ⟨_, _, [], r, htokens, hr, rfl, fun _ => rfl⟩
  · refine ⟨before, t, after ++ [⟨.endOfInput, pos⟩], r, ?_, hr, hblames, ?_⟩
    · rw [htokens, heq, List.append_assoc, List.cons_append]
    · intro he
      have ht : t.isEnd = false := hend t (by simp [heq])
      rw [SyntaxError.isEnd_of_blames hblames, he] at ht
      cases ht

/-- All tokens of a program are taken, so none of them is a fault. -/
theorem isIllegal_of_parse {source : Text} {p : Program} (h : parse source = .ok p) :
    ∀ t ∈ tokens source, t.item.isIllegal = false := by
  obtain ⟨pos, htokens, hparse⟩ := parse_eq_ofTokens source
  have hend := isEnd_of_mem_tokensBeforeEnd source
  rw [hparse] at h
  have hplain := Reader.plain_of_after? (after?_of_ofTokens hend h)
  intro t ht
  rw [htokens] at ht
  rcases List.mem_append.mp ht with ht | ht
  · exact Lexeme.isIllegal_eq_false_iff.mpr (hplain t ht).2
  · cases List.mem_singleton.mp ht
    rfl

end Program

def closers : List Lexeme :=
  [.leftParen, .rightParen, .rightBracket, .ident ['x']]

def Lexeme.unplaced (l : Lexeme) : Token :=
  ⟨l, ⟨0, 0⟩⟩

theorem isEnd_of_mem_closers : ∀ l ∈ closers, l.unplaced.isEnd = false := by
  decide

def Move.Completes (m : Move) : Prop :=
  ∃ ls : List Lexeme, (∀ l ∈ ls, l ∈ closers) ∧ ∃ p, m.goOn ⟨0, 0⟩ (ls.map Lexeme.unplaced) = .ok p

namespace Reader

/-- What leads to a program behind a closing lexeme does so in front of it. -/
theorem completes_of_step {r : Reader} {l : Lexeme} (hl : l ∈ closers)
    (h : (r.step l.unplaced).Completes) : (Move.more r).Completes := by
  obtain ⟨ls, hls, p, hp⟩ := h
  have hend : l.unplaced.isEnd = false := isEnd_of_mem_closers l hl
  refine ⟨l :: ls, ?_, p, ?_⟩
  · intro d hd
    rcases List.mem_cons.mp hd with rfl | hd
    · exact hl
    · exact hls d hd
  · rw [List.map_cons, Move.goOn, Program.ofTokens_cons hend]
    exact hp

/-- An expression that completes the innermost form can be followed by the ends of the others. -/
theorem completes_fill (e : Expr) (frames : List Frame) : (fill e frames).Completes := by
  induction frames generalizing e with
  | nil => exact ⟨[], fun _ hl => absurd hl List.not_mem_nil, [e], rfl⟩
  | cons f frames ih =>
    cases f with
    | call o callee revArgs =>
      exact completes_of_step (l := .rightParen) (by decide)
        (ih (.call o callee (e :: revArgs).reverse))
    | list q revElements =>
      exact completes_of_step (l := .rightParen) (by decide)
        (ih (.list q (e :: revElements).reverse))
    | vector o revElements =>
      exact completes_of_step (l := .rightBracket) (by decide)
        (ih (.vector o (e :: revElements).reverse))
    | defvar k name =>
      exact completes_of_step (l := .rightParen) (by decide) (ih (.defvar k name e none))

/-- Every reader can be brought to a program. -/
theorem completes (r : Reader) : (Move.more r).Completes := by
  have hitem (frames : List Frame) : (Move.more ⟨.item, frames⟩).Completes :=
    completes_of_step (l := .ident ['x']) (by decide) (completes_fill _ frames)
  obtain ⟨wanted, frames⟩ := r
  cases wanted with
  | item => exact hitem frames
  | callee o => exact completes_of_step (l := .ident ['x']) (by decide) (hitem _)
  | elements q => exact completes_of_step (l := .leftParen) (by decide) (hitem _)
  | name k => exact completes_of_step (l := .ident ['x']) (by decide) (hitem _)
  | doc k name value =>
    exact completes_of_step (l := .rightParen) (by decide) (completes_fill _ frames)
  | closing k name value doc =>
    exact completes_of_step (l := .rightParen) (by decide) (completes_fill _ frames)

end Reader

end Sexpr
