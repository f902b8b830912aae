import Sexpr.Proofs.Pieces
import Sexpr.Proofs.Prefixes

/-! The trail of a parser. A call takes tokens until an expression is whole or a token is in the way,
and the next call begins at the token that is next then, wherever the last one has stopped. What was
taken and what is left are the token stream all the time, and the end of input is never taken; so each
call says of the tokens in front of it what a call on a fresh source would. -/
namespace Sexpr

namespace Parser

def current? (p : Parser) : Option Token :=
  p.rest.head?

def after (p : Parser) : Nat → Parser
  | 0 => p
  | n + 1 => (p.after n).expression.2

theorem after_add (p : Parser) (m n : Nat) : p.after (m + n) = (p.after m).after n := by
  induction n with
  | zero => rfl
  | succ n ih => exact congrArg (fun q => q.expression.2) ih

/-- How the tokens that were taken, and those that were not, decide what a call comes to. Some tokens of
the expression may have been taken before. -/
inductive Verdict (begun taken rest : List Token) : Except SyntaxError Expr → Prop
  | whole {e : Expr} (hne : taken ≠ []) (he : Derives (begun ++ taken) e) :
    Verdict begun taken rest (.ok e)
  | refused {t : Token} (ht : rest.head? = some t) (expected : Expected) :
    Verdict begun taken rest (.error (t.refusal expected))
  | spoiled {numeral : Located Text}
    (ht : taken.getLast? = some ⟨.integer numeral.item, numeral.pos⟩) :
    Verdict begun taken rest (.error (.numberTooLarge numeral))

structure Takes (begun trail input taken : List Token) (r : Except SyntaxError Expr × Parser) :
    Prop where
  input_eq : input = taken ++ r.2.rest
  trail_eq : r.2.trail = taken.reverse ++ trail
  isPart : ∀ t ∈ taken, t.item.isPart = true
  verdict : Verdict begun taken r.2.rest r.1

/-- A token in front that was taken is one of those taken. -/
theorem Takes.cons {begun trail input taken : List Token} {t : Token}
    {r : Except SyntaxError Expr × Parser} (h : Takes (begun ++ [t]) (t :: trail) input taken r)
    (ht : t.item.isPart = true) : Takes begun trail (t :: input) (t :: taken) r where
  input_eq := congrArg (t :: ·) h.input_eq
  trail_eq := by rw [h.trail_eq, List.reverse_cons, List.append_assoc, List.cons_append, List.nil_append]
  isPart := List.forall_mem_cons.mpr ⟨ht, h.isPart⟩
  verdict := by
    have hverdict := h.verdict
    generalize r.1 = answer at hverdict
    cases hverdict with
    | whole hne he =>
      rw [List.append_assoc] at he
      exact .whole (List.cons_ne_nil t taken) he
    | refused hhead expected => exact .refused hhead expected
    | spoiled hlast =>
      apply Verdict.spoiled
      rw [List.getLast?_cons, hlast]
      rfl

/-- On an input that has an end, reading takes tokens until they decide. -/
theorem exists_takes_read {r : Reader} {begun : List Token} (hread : r.HasRead begun)
    (trail : List Token) {input : List Token} (hend : ∃ t ∈ input, t.isEnd = true) (stop : Pos) :
    ∃ taken, Takes begun trail input taken (read stop r trail input) := by
  -- on the tokens to come, with what was read so far as the invariant
  induction input generalizing r begun trail with
  | nil =>
    obtain ⟨t, ht, -⟩ := hend
    cases ht
  | cons t input ih =>
    have hstep := Reader.hasRead_step hread t
    have hexplains := r.explains_step t
    cases hm : r.step t with
    | more r' =>
      rw [hm] at hstep hexplains
      have hend' : ∃ u ∈ input, u.isEnd = true := by
        obtain ⟨u, hu, huend⟩ := hend
        rcases List.mem_cons.mp hu with rfl | hu
        · rw [(Token.plain_of_isPart hexplains).1] at huend
          cases huend
        · exact ⟨u, hu, huend⟩
      obtain ⟨taken, htaken⟩ := ih hstep (t :: trail) hend'
      refine ⟨t :: taken, ?_⟩
      simp only [read, hm]
      exact htaken.cons hexplains
    | whole e =>
      rw [hm] at hstep hexplains
      refine ⟨[t], ?_⟩
      simp only [read, hm]
      exact ⟨rfl, rfl, List.forall_mem_singleton.mpr hexplains, .whole (List.cons_ne_nil t []) hstep⟩
    | refused e =>
      rw [hm] at hexplains
      obtain ⟨expected, rfl⟩ := hexplains
      refine ⟨[], ?_⟩
      simp only [read, hm]
      exact ⟨rfl, rfl, nofun, .refused rfl expected⟩
    | spoiled e =>
      rw [hm] at hexplains
      obtain ⟨numeral, hitem, rfl⟩ := hexplains
      have ht : t = ⟨.integer numeral, t.pos⟩ := by rw [← hitem]
      have hpart : t.item.isPart = true := by rw [hitem]; rfl
      refine ⟨[t], ?_⟩
      simp only [read, hm]
      exact ⟨rfl, rfl, List.forall_mem_singleton.mpr hpart, .spoiled (congrArg some ht)⟩

/-- The parser stands somewhere in the token stream of a source, and has taken parts of forms only. -/
structure StandsIn (p : Parser) (source : Text) : Prop where
  consumed_append_rest : p.consumed ++ p.rest = tokens source
  isPart_consumed : ∀ t ∈ p.consumed, t.item.isPart = true

variable {p p' : Parser} {source : Text}

theorem Takes.consumed_eq {begun input taken : List Token} {r : Except SyntaxError Expr × Parser}
    (h : Takes begun p.trail input taken r) : r.2.consumed = p.consumed ++ taken := by
  rw [consumed, h.trail_eq, List.reverse_append, List.reverse_reverse]
  rfl

namespace StandsIn

theorem ofSource (source : Text) : (ofSource source).StandsIn source where
  consumed_append_rest := rfl
  isPart_consumed := nofun

/-- The end of input is not taken, so it is still to come. -/
theorem exists_isEnd (h : p.StandsIn source) : ∃ t ∈ p.rest, t.isEnd = true := by
  obtain ⟨pos, htokens, -⟩ := exists_tokens_eq source
  have hmem : ⟨.endOfInput, pos⟩ ∈ p.consumed ++ p.rest := by
    rw [h.consumed_append_rest, htokens]
    exact List.mem_append_right _ (List.mem_singleton_self _)
  rcases List.mem_append.mp hmem with hmem | hmem
  · cases h.isPart_consumed _ hmem
  · exact ⟨_, hmem, rfl⟩

theorem exists_current (h : p.StandsIn source) :
    ∃ t, p.current? = some t ∧ p.consumed ++ [t] <+: tokens source := by
  obtain ⟨u, hu, -⟩ := h.exists_isEnd
  obtain ⟨t, rest, hrest⟩ := List.exists_cons_of_ne_nil (List.ne_nil_of_mem hu)
  refine ⟨t, by rw [current?, hrest]; rfl, rest, ?_⟩
  rw [← h.consumed_append_rest, hrest, List.append_assoc]
  rfl

/-- A call takes tokens from the front of those that are left. -/
theorem exists_takes (h : p.StandsIn source) : ∃ taken, Takes [] p.trail p.rest taken p.expression :=
  exists_takes_read Reader.hasRead_start p.trail h.exists_isEnd ⟨0, 0⟩

theorem expression (h : p.StandsIn source) : p.expression.2.StandsIn source where
  consumed_append_rest := (consumed_append_rest_expression p).trans h.consumed_append_rest
  isPart_consumed := by
    obtain ⟨taken, htaken⟩ := h.exists_takes
    rw [htaken.consumed_eq]
    exact List.forall_mem_append.mpr ⟨h.isPart_consumed, htaken.isPart⟩

/-- However often it is called, the parser stands in the stream of its source. -/
theorem after (source : Text) (n : Nat) : ((Parser.ofSource source).after n).StandsIn source := by
  induction n with
  | zero => exact ofSource source
  | succ n ih => exact ih.expression

end StandsIn

/-- A call that took nothing has left the parser alone. -/
theorem eq_of_consumed_eq {r : Except SyntaxError Expr} (h : p.expression = (r, p'))
    (hconsumed : p'.consumed = p.consumed) : p' = p := by
  have hsplit := consumed_append_rest_expression p
  rw [h, hconsumed] at hsplit
  have hrest : p'.rest = p.rest := List.append_cancel_left hsplit
  have htrail : p'.trail = p.trail := List.reverse_injective hconsumed
  cases p
  cases p'
  cases hrest
  cases htrail
  rfl

/-- A call that moves nothing can be repeated without end. -/
theorem after_eq_self {r : Except SyntaxError Expr} (h : p.expression = (r, p)) (n : Nat) :
    p.after n = p := by
  induction n with
  | zero => rfl
  | succ n ih => rw [Parser.after, ih, h]

end Parser

/-- The error is the one that the token has of itself: the complaint of the scanner, the end of input,
or that it is not expected, and then the error points at it. -/
def SyntaxError.DecidedBy (e : SyntaxError) (source : Text) (t : Token) : Prop :=
  match t.item with
  | .illegal fault => e = .illegal fault t.pos
  | .endOfInput => e = .endOfInput t.pos
  | _ => ∃ expected, e = .unexpected expected t ∧ e.span source = t.span

theorem Token.decidedBy_refusal (t : Token) (expected : Expected) (source : Text) :
    (t.refusal expected).DecidedBy source t := by
  obtain ⟨l, p⟩ := t
  cases l with
  | illegal fault => rfl
  | endOfInput => rfl
  | _ => exact ⟨expected, rfl, rfl⟩

/-- The trail of a parser is exact, also behind errors. After any number of calls, what was taken and
the token that is next are the beginning of the token stream, and nothing but parts of forms was
taken. A call that succeeds takes the tokens of its expression, at least one. A call that fails tells
of a numeral that it took last and that is too large, or its error is decided by the token that is
next; and if it took nothing, all later calls fail like it. -/
theorem trail_is_exact (source : Text) (n : Nat) :
    let p := (Parser.ofSource source).after n
    (∃ t, p.current? = some t ∧ p.consumed ++ [t] <+: tokens source) ∧
      (∀ t ∈ p.consumed, t.item.isPart = true) ∧
      (∀ e p', p.expression = (.ok e, p') → ∃ taken, taken ≠ [] ∧
        p'.consumed = p.consumed ++ taken ∧ Derives taken e ∧
        List.Forall₂ Piece.Matches e.pieces taken) ∧
      ∀ err p', p.expression = (.error err, p') →
        ((∃ numeral, err = .numberTooLarge numeral ∧
            p'.consumed.getLast? = some ⟨.integer numeral.item, numeral.pos⟩) ∨
          ∃ t, p'.current? = some t ∧ err.DecidedBy source t) ∧
        (p'.consumed = p.consumed → ∀ m, n ≤ m →
          ((Parser.ofSource source).after m).expression = (.error err, p)) := by
  intro p
  have hstands : p.StandsIn source := Parser.StandsIn.after source n
  obtain ⟨taken, htaken⟩ := hstands.exists_takes
  have hconsumed := htaken.consumed_eq
  have hverdict := htaken.verdict
  refine ⟨hstands.exists_current, hstands.isPart_consumed, ?_, ?_⟩
  · intro e p' h
    rw [h] at hconsumed hverdict
    cases hverdict with
    | whole hne he => exact ⟨taken, hne, hconsumed, he, he.pieces_match⟩
  · intro err p' h
    rw [h] at hconsumed hverdict
    refine ⟨?_, ?_⟩
    · cases hverdict with
      | @refused t hhead expected => exact .inr ⟨t, hhead, t.decidedBy_refusal expected source⟩
      | spoiled hlast =>
        refine .inl ⟨_, rfl, ?_⟩
        change p'.consumed = _ at hconsumed
        rw [hconsumed, List.getLast?_append, hlast]
        rfl
    · intro hsame m hm
      cases Parser.eq_of_consumed_eq h hsame
      obtain ⟨k, rfl⟩ := Nat.exists_eq_add_of_le hm
      rw [Parser.after_add, Parser.after_eq_self h, h]

/-- The first call reads a name and the second one a numeral that is too large, in the middle of a
form. From there on the percent sign is in the way of every call. -/
theorem percent_sign_stops_all_later_calls :
    let source := "x (f 99999999999999999999 %".toList
    let p := (Parser.ofSource source).after 2
    p.consumed.map Located.item =
        [.ident ['x'], .leftParen, .ident ['f'], .integer "99999999999999999999".toList] ∧
      ∀ m, 2 ≤ m → ((Parser.ofSource source).after m).expression =
        (.error (.illegal (.character '%') ⟨26, 26⟩), p) := by
  intro source p
  have htokens : tokens source =
      [⟨.ident ['x'], ⟨0, 0⟩⟩, ⟨.leftParen, ⟨2, 2⟩⟩, ⟨.ident ['f'], ⟨3, 3⟩⟩,
        ⟨.integer "99999999999999999999".toList, ⟨5, 5⟩⟩, ⟨.illegal (.character '%'), ⟨26, 26⟩⟩,
        ⟨.endOfInput, ⟨27, 27⟩⟩] := by
    decide +kernel
  have hp : p = ⟨[⟨.integer "99999999999999999999".toList, ⟨5, 5⟩⟩, ⟨.ident ['f'], ⟨3, 3⟩⟩,
      ⟨.leftParen, ⟨2, 2⟩⟩, ⟨.ident ['x'], ⟨0, 0⟩⟩],
      [⟨.illegal (.character '%'), ⟨26, 26⟩⟩, ⟨.endOfInput, ⟨27, 27⟩⟩]⟩ := by
    change (Parser.mk [] (tokens source)).after 2 = _
    rw [htokens]
    rfl
  have hfails : p.expression = (.error (.illegal (.character '%') ⟨26, 26⟩), p) := by
    rw [hp]
    rfl
  refine ⟨by rw [hp]; rfl, ?_⟩
  exact ((trail_is_exact source 2).2.2.2 _ _ hfails).2 rfl

end Sexpr
