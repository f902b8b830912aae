import Sexpr.Proofs.Tiling

/-! Calls of one scanner in any mix. The end that a scanner is on its way to stands behind all that is
left, so no call moves it. A call that does not hand it out takes a token off what is left and comes
nearer by that token; behind the end nothing is left, and only the iterator has something to remember.
Main statement: all mixes of calls read one stream and come to its end. -/
namespace Sexpr

namespace Scanner

inductive Call
  | next
  | nextToken
deriving DecidableEq

def call (s : Scanner) : Call → Option Token × Scanner
  | .next => s.next
  | .nextToken => (some s.nextToken.1, s.nextToken.2)

def after (s : Scanner) : List Call → Scanner
  | [] => s
  | c :: cs => (s.call c).2.after cs

def history (s : Scanner) : List Call → List (Call × Option Token)
  | [] => []
  | c :: cs => (c, (s.call c).1) :: (s.call c).2.history cs

def returned (s : Scanner) (cs : List Call) : List Token :=
  (s.history cs).filterMap Prod.snd

def finish (s : Scanner) : Token :=
  ⟨.endOfInput, s.pos.advance s.rest⟩

structure Advances (s : Scanner) (t : Token) (s' : Scanner) : Prop where
  isEnd_eq : t.isEnd = false
  tokens_eq : s.tokens = t :: s'.tokens
  finish_eq : s'.finish = s.finish
  ended_eq : s'.ended = s.ended
  length_lt : s'.rest.length < s.rest.length
  byte_lt : s.pos.byte < s'.pos.byte
  offset_lt : s.pos.offset < s'.pos.offset

variable {s : Scanner}

theorem advances_nextToken (h : s.nextToken.1.isEnd = false) :
    s.Advances s.nextToken.1 s.nextToken.2 := by
  rcases s.nextToken_cases with ⟨-, hnext⟩ | ⟨w, l, rest, -, hl, -, hrest, hnext⟩
  · rw [hnext] at h
    cases h
  · have hbytes := Text.byteLength_pos (Lexeme.source_ne_nil hl)
    have hchars := List.length_pos_iff.mpr (Lexeme.source_ne_nil hl)
    refine ⟨h, tokens_of_not_isEnd h, ?_, s.ended_nextToken, length_nextToken h, ?_, ?_⟩
    · rw [hnext, finish, finish, hrest, Pos.advance_append, Pos.advance_append]
    · rw [hnext]
      simp only [Pos.advance]
      omega
    · rw [hnext]
      simp only [Pos.advance]
      omega

theorem nextToken_of_isEnd (h : s.nextToken.1.isEnd = true) :
    s.nextToken = (s.finish, ⟨s.finish.pos, [], s.ended⟩) := by
  rcases s.nextToken_cases with ⟨-, hnext⟩ | ⟨w, l, rest, -, hl, -, -, hnext⟩
  · exact hnext
  · rw [hnext, isEnd_of_spelled hl] at h
    cases h

theorem call_next_of_ended (hs : s.ended = true) : s.call .next = (none, s) := by
  rw [call, next, hs]
  rfl

/-- A call answers nothing, or takes a token off what is left, or hands out the end of input. -/
theorem call_cases (s : Scanner) (c : Call) :
    (s.call c = (none, s) ∧ c = .next ∧ s.ended = true) ∨
      (∃ t s', s.call c = (some t, s') ∧ s.Advances t s') ∨
      ∃ ended, s.call c = (some s.finish, ⟨s.finish.pos, [], ended⟩) ∧ s.tokens = [s.finish] ∧
        (ended = true ↔ s.ended = true ∨ c = .next) := by
  cases hend : s.nextToken.1.isEnd with
  | false =>
    have hadvances := advances_nextToken hend
    cases c with
    | next =>
      cases hs : s.ended with
      | true => exact .inl ⟨call_next_of_ended hs, rfl, rfl⟩
      | false =>
        refine .inr (.inl ⟨_, _, ?_, hadvances⟩)
        rw [call, next, hs]
        simp only [hend]
        rfl
    | nextToken => exact .inr (.inl ⟨_, _, rfl, hadvances⟩)
  | true =>
    have hnext := nextToken_of_isEnd hend
    have htokens := tokens_of_isEnd hend
    rw [hnext] at htokens
    cases c with
    | next =>
      cases hs : s.ended with
      | true => exact .inl ⟨call_next_of_ended hs, rfl, rfl⟩
      | false =>
        refine .inr (.inr ⟨true, ?_, htokens, by simp⟩)
        rw [call, next, hs, hnext]
        rfl
    | nextToken =>
      refine .inr (.inr ⟨s.ended, ?_, htokens, by simp⟩)
      rw [call, hnext]

theorem next_eq_none_iff (s : Scanner) : s.next.1 = none ↔ s.ended = true := by
  cases h : s.ended <;> simp [next, h]

theorem nextToken_of_nil (h : s.rest = []) : s.nextToken = (s.finish, s) := by
  obtain ⟨pos, rest, ended⟩ := s
  cases h
  rfl

/-- No call moves the end of input. -/
theorem finish_call (s : Scanner) (c : Call) : (s.call c).2.finish = s.finish := by
  rcases s.call_cases c with ⟨h, -, -⟩ | ⟨t, s', h, hadvances⟩ | ⟨ended, h, -, -⟩
  · rw [h]
  · rw [h]
    exact hadvances.finish_eq
  · rw [h]
    rfl

/-- The iterator remembers that it has handed out the end of input, and nothing else. -/
theorem ended_call_iff (s : Scanner) (c : Call) : (s.call c).2.ended = true ↔
    s.ended = true ∨ ∃ t, (Call.next, some t) = (c, (s.call c).1) ∧ t.isEnd = true := by
  rcases s.call_cases c with ⟨h, -, -⟩ | ⟨t, s', h, hadvances⟩ | ⟨ended, h, -, hended⟩
  · simp [h]
  · simp [h, hadvances.ended_eq, hadvances.isEnd_eq]
  · rw [h]
    refine hended.trans (or_congr_right ⟨?_, ?_⟩)
    · rintro rfl
      exact ⟨s.finish, rfl, rfl⟩
    · rintro ⟨t, hcall, -⟩
      exact (Prod.mk.inj hcall).1.symm

/-- Whichever way it was asked for, a token that is not the end of input moves the scanner on. -/
theorem advances_of_call {c : Call} {t : Token} (ht : (s.call c).1 = some t)
    (hend : t.isEnd = false) : s.Advances t (s.call c).2 := by
  rcases s.call_cases c with ⟨h, -, -⟩ | ⟨u, s', h, hadvances⟩ | ⟨ended, h, -, -⟩
  · rw [h] at ht
    cases ht
  · rw [h] at ht ⊢
    cases ht
    exact hadvances
  · rw [h] at ht
    cases ht
    cases hend

theorem eq_finish_of_call {c : Call} {t : Token} (ht : (s.call c).1 = some t)
    (hend : t.isEnd = true) : t = s.finish ∧ (s.call c).2.rest = [] := by
  rcases s.call_cases c with ⟨h, -, -⟩ | ⟨u, s', h, hadvances⟩ | ⟨ended, h, -, -⟩
  · rw [h] at ht
    cases ht
  · rw [h] at ht
    cases ht
    exact absurd (hadvances.isEnd_eq.symm.trans hend) Bool.false_ne_true
  · rw [h] at ht ⊢
    exact ⟨(Option.some.inj ht).symm, rfl⟩

theorem rest_call_of_nil (h : s.rest = []) (c : Call) : (s.call c).2.rest = [] := by
  rcases s.call_cases c with ⟨hcall, -, -⟩ | ⟨t, s', -, hadvances⟩ | ⟨ended, hcall, -, -⟩
  · rw [hcall]
    exact h
  · have hlength := hadvances.length_lt
    rw [h] at hlength
    exact absurd hlength (Nat.not_lt_zero _)
  · rw [hcall]

theorem returned_cons (s : Scanner) (c : Call) (cs : List Call) :
    s.returned (c :: cs) = (s.call c).1.toList ++ (s.call c).2.returned cs := by
  rw [returned, history, List.filterMap_cons]
  cases (s.call c).1 <;> rfl

theorem finish_after (s : Scanner) (cs : List Call) : (s.after cs).finish = s.finish := by
  induction cs generalizing s with
  | nil => rfl
  | cons c cs ih => rw [after, ih, finish_call]

theorem rest_after_of_nil (h : s.rest = []) (cs : List Call) : (s.after cs).rest = [] := by
  induction cs generalizing s with
  | nil => exact h
  | cons c cs ih => exact ih (rest_call_of_nil h c)

/-- A scanner ends by handing out the end of input as an iterator, and by nothing else. -/
theorem ended_after_iff (s : Scanner) (cs : List Call) : (s.after cs).ended = true ↔
    s.ended = true ∨ ∃ t, (Call.next, some t) ∈ s.history cs ∧ t.isEnd = true := by
  induction cs generalizing s with
  | nil => simp [after, history]
  | cons c cs ih =>
    rw [after, ih, ended_call_iff, or_assoc, ← exists_or]
    simp only [history, List.mem_cons, or_and_right]

/-- The tokens that are returned are those of the stream, and then its end over and over. -/
theorem returned_isPrefix (s : Scanner) (cs : List Call) :
    s.returned cs <+: s.tokens ++ List.replicate cs.length s.finish := by
  induction cs generalizing s with
  | nil => exact List.nil_prefix
  | cons c cs ih =>
    have ih' := ih (s.call c).2
    rw [finish_call] at ih'
    rw [returned_cons, List.length_cons]
    rcases s.call_cases c with ⟨h, -, -⟩ | ⟨t, s', h, hadvances⟩ | ⟨ended, h, htokens, -⟩
    · rw [h] at ih' ⊢
      rw [List.replicate_succ', ← List.append_assoc]
      exact ih'.trans (List.prefix_append _ _)
    · rw [h] at ih' ⊢
      rw [hadvances.tokens_eq, List.replicate_succ', List.cons_append, ← List.append_assoc]
      exact (List.prefix_cons_inj t).mpr (ih'.trans (List.prefix_append _ _))
    · rw [h] at ih' ⊢
      rw [tokens_of_isEnd rfl] at ih'
      rw [htokens, List.replicate_succ]
      exact (List.prefix_cons_inj _).mpr ih'

/-- Once the end of input was returned, nothing is left. -/
theorem eq_finish_of_mem_returned {cs : List Call} {t : Token} (ht : t ∈ s.returned cs)
    (hend : t.isEnd = true) : t = s.finish ∧ (s.after cs).rest = [] := by
  induction cs generalizing s with
  | nil => cases ht
  | cons c cs ih =>
    rw [returned_cons] at ht
    rcases List.mem_append.mp ht with ht | ht
    · obtain ⟨hfinish, hrest⟩ := eq_finish_of_call (Option.mem_toList.mp ht) hend
      exact ⟨hfinish, rest_after_of_nil hrest cs⟩
    · obtain ⟨hfinish, hrest⟩ := ih ht
      rw [finish_call] at hfinish
      exact ⟨hfinish, hrest⟩

/-- As long as the end of input was not returned, every call has taken a character at least. -/
theorem length_rest_after {cs : List Call} (hs : s.ended = false)
    (hcs : ∀ t ∈ s.returned cs, t.isEnd = false) :
    (s.after cs).rest.length + cs.length ≤ s.rest.length := by
  induction cs generalizing s with
  | nil => exact Nat.le_refl _
  | cons c cs ih =>
    rw [returned_cons] at hcs
    rcases s.call_cases c with ⟨-, -, hended⟩ | ⟨t, s', h, hadvances⟩ | ⟨ended, h, -, -⟩
    · exact absurd (hs.symm.trans hended) Bool.false_ne_true
    · rw [h] at hcs
      have ih' := ih (hadvances.ended_eq.trans hs) fun u hu => hcs u (List.mem_append_right _ hu)
      have hlength := hadvances.length_lt
      rw [after, h, List.length_cons]
      dsimp only
      omega
    · rw [h] at hcs
      have hfinish := hcs s.finish List.mem_cons_self
      cases hfinish

end Scanner

/-- Every token but the end of input takes a character at least. -/
theorem Scans.length_le {p : Pos} {a : Text} {ts : List Token} (h : Scans p a ts) :
    ts.length ≤ a.length + 1 := by
  induction h with
  | done _ => exact Nat.le_add_left _ _
  | token _ hl _ _ ih =>
    have hchars := List.length_pos_iff.mpr (Lexeme.source_ne_nil hl)
    simp only [List.length_cons, List.length_append]
    omega

/-- Any mix of calls reads one stream and comes to its end. The tokens returned are those that a fresh
scanner hands out as an iterator, in order, and then the end of input over and over. The iterator
answers nothing exactly if it has answered the end of input before; asked for the next token, a scanner
that has returned the end returns it again and stays where it is. Every other token takes the scanner
forward, in bytes and in characters, so that the end comes after as many tokens as there are
characters, or before. -/
theorem mixed_calls_read_one_stream (source : Text) (cs : List Scanner.Call) :
    let s := (Scanner.start source).after cs
    let history := (Scanner.start source).history cs
    let returned := (Scanner.start source).returned cs
    (Scanner.start source).HandsOut (tokens source) ∧
      (∃ finish, tokens source = tokensBeforeEnd source ++ [finish] ∧ finish.isEnd = true ∧
        returned <+: tokens source ++ List.replicate cs.length finish) ∧
      (s.next.1 = none ↔ ∃ t, (.next, some t) ∈ history ∧ t.isEnd = true) ∧
      (∀ t ∈ returned, t.isEnd = true → t.pos = s.pos ∧ s.nextToken = (t, s)) ∧
      (∀ c t, (s.call c).1 = some t → t.isEnd = false →
        s.pos.byte < (s.call c).2.pos.byte ∧ s.pos.offset < (s.call c).2.pos.offset) ∧
      (tokensBeforeEnd source).length ≤ source.length ∧
      (source.length < cs.length → ∃ t ∈ returned, t.isEnd = true) := by
  intro s history returned
  have hscan := scans_tokens source
  obtain ⟨q, htokens, -⟩ := exists_tokens_eq source
  refine ⟨Scanner.handsOut_tokens rfl, ⟨(Scanner.start source).finish, ?_, rfl, ?_⟩, ?_, ?_, ?_, ?_,
    ?_⟩
  · have hq := (htokens ▸ hscan).pos_of_end (isEnd_of_mem_tokensBeforeEnd source)
    rw [htokens, hq]
    rfl
  · exact (Scanner.start source).returned_isPrefix cs
  · rw [s.next_eq_none_iff, Scanner.ended_after_iff]
    exact or_iff_right Bool.false_ne_true
  · intro t ht hend
    obtain ⟨hfinish, hrest⟩ := Scanner.eq_finish_of_mem_returned ht hend
    rw [← Scanner.finish_after (Scanner.start source) cs] at hfinish
    have hpos : s.finish.pos = s.pos := by
      rw [Scanner.finish, hrest]
      rfl
    rw [hfinish]
    exact ⟨hpos, Scanner.nextToken_of_nil hrest⟩
  · intro c t ht hend
    have hadvances := Scanner.advances_of_call ht hend
    exact ⟨hadvances.byte_lt, hadvances.offset_lt⟩
  · have hlength := hscan.length_le
    rw [htokens, List.length_append, List.length_singleton] at hlength
    exact Nat.le_of_succ_le_succ hlength
  · intro hlength
    apply Classical.byContradiction
    intro hnone
    have hcs : ∀ t ∈ returned, t.isEnd = false := by simpa using hnone
    have hrest := Scanner.length_rest_after rfl hcs
    exact absurd (Nat.le_trans (Nat.le_add_left _ _) hrest) (Nat.not_le.mpr hlength)

/-- A name, a lone quote, an empty string, a character that opens nothing and an unclosed string. The
end comes first when the scanner is asked for its next token, then from the iterator, and then from the
iterator no more. -/
theorem iterator_ends_behind_end_of_input :
    let start := Scanner.start "λ'\"\"%\"".toList
    let cs : List Scanner.Call := [.next, .nextToken, .next, .nextToken, .next, .nextToken, .next]
    (start.returned cs).map Located.item =
        [.ident ['λ'], .quote, .string [], .illegal (.character '%'),
          .illegal (.unterminatedString []), .endOfInput, .endOfInput] ∧
      (start.after cs).next.1 = none ∧
      (start.after cs).nextToken = (⟨.endOfInput, ⟨6, 7⟩⟩, start.after cs) ∧
      start.pos.byte < (start.call .nextToken).2.pos.byte ∧ ∃ t ∈ start.returned cs, t.isEnd = true := by
  intro start cs
  obtain ⟨-, -, hnext, hend, -, -, hlast⟩ := mixed_calls_read_one_stream "λ'\"\"%\"".toList cs
  obtain ⟨-, -, -, -, hforward, -, -⟩ := mixed_calls_read_one_stream "λ'\"\"%\"".toList []
  have hmem : (.next, some ⟨.endOfInput, ⟨6, 7⟩⟩) ∈ start.history cs := by decide +kernel
  refine ⟨by decide +kernel, hnext.mpr ⟨_, hmem, rfl⟩, ?_, ?_, hlast (by decide)⟩
  · exact (hend _ (List.mem_filterMap.mpr ⟨_, hmem, rfl⟩) rfl).2
  · exact (hforward .nextToken _ rfl (by decide +kernel)).1

end Sexpr
