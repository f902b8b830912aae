import Sexpr.Proofs.Scanning

/-! Tokens and the gaps between them as a tiling of the source. A token stands where its span says, in
bytes and in characters, and the next one begins behind it; what no token covers is blank, and the end
of input stands at the very end. All this is read off the decomposition of the source that scanning
computes, with the part in front of the place that it has come to kept general. -/
namespace Sexpr

namespace Text

def slice (t : Text) (span : Span) : Text :=
  takeBytes span.length (dropBytes span.start t)

/-- A span cuts out what stands behind so many bytes. -/
theorem slice_append (t u v : Text) :
    slice (t ++ (u ++ v)) ⟨byteLength t, byteLength u⟩ = u := by
  rw [slice, dropBytes_byteLength_append, takeBytes_byteLength_append]

theorem lineOf_append (t u : Text) : lineOf (t ++ u) (byteLength t) = t.count '\n' + 1 := by
  rw [lineOf, takeBytes_byteLength_append]

end Text

def Span.stop (s : Span) : Nat :=
  s.start + s.length

structure Pos.StandsIn (p : Pos) (t : Text) : Prop where
  offset_le : p.offset ≤ t.length
  byteLength_take : Text.byteLength (t.take p.offset) = p.byte

theorem Pos.standsIn_advance (t u : Text) : (Pos.advance ⟨0, 0⟩ t).StandsIn (t ++ u) where
  offset_le := by simp [advance]
  byteLength_take := by simp [advance]

/-- What stands between two places of a text. -/
theorem Text.slice_advance {p : Pos} {front : Text} (hp : p = Pos.advance ⟨0, 0⟩ front)
    (w rest : Text) :
    (front ++ (w ++ rest)).slice ⟨p.byte, (p.advance w).byte - p.byte⟩ = w := by
  have hstart : p.byte = byteLength front := by simp [hp, Pos.advance]
  have hlength : (p.advance w).byte - p.byte = byteLength w := Nat.add_sub_cancel_left _ _
  rw [hlength, hstart, slice_append]

def Lexeme.isDelimited : Lexeme → Bool
  | string _ | character _ => true
  | _ => false

theorem Lexeme.text_eq_source (l : Lexeme) :
    l.text = if l.isDelimited then l.source.tail.dropLast else l.source := by
  cases l with
  | string body => simp [text, isDelimited, source]
  | _ => rfl

/-- The token is a part of the source. Its text is what stands at its span, delimiters left out. -/
structure Token.IsPartOf (t : Token) (source : Text) : Prop where
  pos_standsIn : t.pos.StandsIn source
  stop_le : t.span.stop ≤ Text.byteLength source
  slice_span : source.slice t.span = t.item.source
  text_eq : t.item.text = if t.item.isDelimited then (source.slice t.span).tail.dropLast
    else source.slice t.span

theorem Token.isPartOf_of_append {t : Token} {before : Text}
    (hpos : t.pos = Pos.advance ⟨0, 0⟩ before) (after : Text) :
    t.IsPartOf (before ++ (t.item.source ++ after)) := by
  have hspan : t.span = ⟨Text.byteLength before, Text.byteLength t.item.source⟩ := by
    simp [span, hpos, Pos.advance]
  have hslice : (before ++ (t.item.source ++ after)).slice t.span = t.item.source := by
    rw [hspan, Text.slice_append]
  refine ⟨?_, ?_, hslice, ?_⟩
  · rw [hpos]
    exact Pos.standsIn_advance before _
  · rw [hspan, Span.stop, Text.byteLength_append, Text.byteLength_append, ← Nat.add_assoc]
    exact Nat.le_add_right _ _
  · rw [hslice]
    exact t.item.text_eq_source

/-- The text in front of each token, from the end of the token before it; in front of the first, from
a given byte. -/
def gapsFrom (source : Text) : Nat → List Token → List Text
  | _, [] => []
  | n, t :: ts => source.slice ⟨n, t.span.start - n⟩ :: gapsFrom source t.span.stop ts

def tiles (gaps : List Text) (ts : List Token) : Text :=
  (List.zipWith (fun gap t => gap ++ t.item.source) gaps ts).flatten

namespace Scans

variable {p : Pos} {a : Text} {ts : List Token}

/-- Every token stands behind some part of the text, and all but the end of input are as long as they
can be there. -/
theorem exists_spelled_of_mem (h : Scans p a ts) {t : Token} (ht : t ∈ ts) :
    ∃ before after, a = before ++ (t.item.source ++ after) ∧ t.pos = p.advance before ∧
      (t.isEnd = false → t.item.Spelled ∧ t.item.EndsAt after) := by
  induction h with
  | @done p w hw =>
    cases List.mem_singleton.mp ht
    exact ⟨w, [], (List.append_nil w).symm, rfl, nofun⟩
  | @token p w l rest ts hw hl he h ih =>
    rcases List.mem_cons.mp ht with rfl | ht
    · exact ⟨w, rest, rfl, rfl, fun _ => ⟨hl, he⟩⟩
    · obtain ⟨before, after, rfl, hpos, hspelled⟩ := ih ht
      refine ⟨w ++ (l.source ++ before), after, by simp only [List.append_assoc], ?_, hspelled⟩
      rw [hpos, Pos.advance_append, Pos.advance_append]

/-- A scanned token stands in the source, and its place is counted up to there. -/
theorem exists_of_mem (h : Scans p a ts) {t : Token} (ht : t ∈ ts) :
    ∃ before after, a = before ++ (t.item.source ++ after) ∧ t.pos = p.advance before := by
  obtain ⟨before, after, ha, hpos, -⟩ := h.exists_spelled_of_mem ht
  exact ⟨before, after, ha, hpos⟩

/-- Tokens do not overlap. -/
theorem pairwise_span (h : Scans p a ts) :
    ts.Pairwise fun t u => t.span.stop ≤ u.span.start := by
  induction h with
  | done hw => exact List.pairwise_singleton _ _
  | @token p w l rest ts hw hl he h ih =>
    refine List.pairwise_cons.mpr ⟨?_, ih⟩
    intro u hu
    obtain ⟨before, after, -, hpos⟩ := h.exists_of_mem hu
    change _ ≤ u.pos.byte
    rw [hpos]
    exact Nat.le_add_right _ _

theorem pos_of_end {body : List Token} {q : Pos} (h : Scans p a (body ++ [⟨.endOfInput, q⟩]))
    (hbody : ∀ t ∈ body, t.isEnd = false) : q = p.advance a := by
  induction body generalizing p a with
  | nil =>
    cases h with
    | done hw => rfl
    | token _ hl _ _ => exact absurd hl id
  | cons t body ih =>
    obtain ⟨v, rest, -, rfl, hpos, -, -, h⟩ := h.exists_of_cons (hbody t List.mem_cons_self)
    rw [ih h fun u hu => hbody u (List.mem_cons_of_mem t hu), hpos, Pos.advance_append,
      Pos.advance_append]

/-- Behind any text, the gaps are the blanks that scanning skips, and nothing is left out. -/
theorem gapsFrom_append (h : Scans p a ts) {front : Text} (hp : p = Pos.advance ⟨0, 0⟩ front) :
    (∀ gap ∈ gapsFrom (front ++ a) p.byte ts, ∀ c ∈ gap, Text.isBlank c = true) ∧
      tiles (gapsFrom (front ++ a) p.byte ts) ts = a := by
  -- gaps are cut out of the whole source, so what scanning has passed is kept in front
  induction h generalizing front with
  | @done p w hw =>
    have hgap := Text.slice_advance hp w []
    rw [List.append_nil] at hgap
    have hgaps : gapsFrom (front ++ w) p.byte [⟨.endOfInput, p.advance w⟩] = [w] :=
      congrArg (· :: []) hgap
    rw [hgaps]
    exact ⟨by simpa using hw, by simp [tiles, Lexeme.source, Lexeme.text]⟩
  | @token p w l rest ts hw hl he h ih =>
    have hfront : (p.advance w).advance l.source =
        Pos.advance ⟨0, 0⟩ (front ++ (w ++ l.source)) := by
      rw [hp, Pos.advance_append, Pos.advance_append]
    have ih' := ih hfront
    have hsource : front ++ (w ++ l.source) ++ rest = front ++ (w ++ (l.source ++ rest)) := by
      simp only [List.append_assoc]
    rw [hsource] at ih'
    have hgaps : gapsFrom (front ++ (w ++ (l.source ++ rest))) p.byte (⟨l, p.advance w⟩ :: ts) =
        w :: gapsFrom (front ++ (w ++ (l.source ++ rest)))
          ((p.advance w).advance l.source).byte ts := by
      rw [gapsFrom]
      exact congrArg (· :: _) (Text.slice_advance hp w _)
    rw [hgaps]
    refine ⟨?_, ?_⟩
    · intro gap hgap
      rcases List.mem_cons.mp hgap with rfl | hgap
      · exact hw
      · exact ih'.1 gap hgap
    · have htiles := ih'.2
      simp only [tiles, List.zipWith_cons_cons, List.flatten_cons] at htiles ⊢
      rw [htiles, List.append_assoc]

end Scans

namespace Scanner

/-- What the scanner hands out as an iterator, up to where it has nothing more. -/
inductive HandsOut : Scanner → List Token → Prop
  | nothing {s s' : Scanner} (h : s.next = (none, s')) : HandsOut s []
  | token {s s' : Scanner} {t : Token} {ts : List Token} (h : s.next = (some t, s'))
    (hts : HandsOut s' ts) : HandsOut s (t :: ts)

theorem ended_nextToken (s : Scanner) : s.nextToken.2.ended = s.ended := by
  rcases s.nextToken_cases with ⟨-, hnext⟩ | ⟨w, l, rest, -, -, -, -, hnext⟩ <;> rw [hnext]

/-- As an iterator, a scanner hands out its tokens and nothing behind them. -/
theorem handsOut_tokens {s : Scanner} (hs : s.ended = false) : s.HandsOut s.tokens := by
  generalize hn : s.rest.length = n
  induction n using Nat.strongRecOn generalizing s with
  | _ n ih =>
    have hnext : s.next = (some s.nextToken.1,
        if s.nextToken.1.isEnd then { s.nextToken.2 with ended := true } else s.nextToken.2) := by
      simp only [next, hs, Bool.false_eq_true, if_false]
    cases hend : s.nextToken.1.isEnd with
    | true =>
      rw [hend] at hnext
      rw [tokens_of_isEnd hend]
      exact .token hnext (.nothing rfl)
    | false =>
      rw [hend] at hnext
      rw [tokens_of_not_isEnd hend]
      have hlt := length_nextToken hend
      exact .token hnext (ih _ (hn ▸ hlt) (s.ended_nextToken.trans hs) rfl)

end Scanner

/-- The tokens and the blanks between them are the source, piece by piece. -/
structure Covers (ts : List Token) (source : Text) : Prop where
  isPartOf : ∀ t ∈ ts, t.IsPartOf source
  ordered : ts.Pairwise fun t u => t.span.stop ≤ u.span.start
  isBlank_gaps : ∀ gap ∈ gapsFrom source 0 ts, ∀ c ∈ gap, Text.isBlank c = true
  tiles_gaps : tiles (gapsFrom source 0 ts) ts = source
  ends : ∃ body p, ts = body ++ [⟨.endOfInput, p⟩] ∧ p.byte = Text.byteLength source ∧
    ∀ t ∈ body, t.isEnd = false

/-- Scanning loses and invents nothing: what the iterator hands out are parts of the source, in order
and apart, with nothing but blanks around them, and the end of input behind everything. -/
theorem handed_out_tokens_cover_source (source : Text) :
    (Scanner.start source).HandsOut (tokens source) ∧ Covers (tokens source) source := by
  have hscan := scans_tokens source
  obtain ⟨q, hts, -⟩ := exists_tokens_eq source
  have hend := isEnd_of_mem_tokensBeforeEnd source
  obtain ⟨hblank, htiles⟩ := hscan.gapsFrom_append (Pos.advance_nil _).symm
  refine ⟨Scanner.handsOut_tokens rfl, ?_, hscan.pairwise_span, hblank, htiles, ?_⟩
  · intro t ht
    obtain ⟨before, after, heq, hpos⟩ := hscan.exists_of_mem ht
    rw [heq]
    exact Token.isPartOf_of_append hpos after
  · have hq := (hts ▸ hscan).pos_of_end hend
    refine ⟨_, q, hts, ?_, hend⟩
    rw [hq]
    exact Nat.zero_add _

/-- Letters of two bytes move the spans apart from the characters. -/
example : (tokens " (λ\n\"é\")".toList).map (fun t => (t.pos.offset, t.span.start, t.span.stop)) =
      [(1, 1, 2), (2, 2, 4), (4, 5, 9), (7, 9, 10), (8, 10, 10)] ∧
    gapsFrom " (λ\n\"é\")".toList 0 (tokens " (λ\n\"é\")".toList) = [[' '], [], ['\n'], [], []] := by
  decide +kernel

end Sexpr
