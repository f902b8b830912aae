import Sexpr.Proofs.Tiling
import Sexpr.Proofs.Trail
import Sexpr.SyntaxError.Diagnostic

/-! What the label of a syntax error marks. A label is made of the error alone, from the length of a
text and its delimiters, and for an early end of input from the text in front of it; but the error
blames a token, and tokens are parts of the source. So a label begins and ends between two
characters, and the line of the error can be counted there. -/
namespace Sexpr

/-- The diagnostic has one label, and that marks the token in the source, or the last character if
the token is the end of input. Faults and the end of input have a line, the one that the label begins
on. -/
structure Diagnostic.PointsAt (d : Diagnostic) (source : Text) (t : Token) : Prop where
  exists_marked : ∃ front marked back : Text, source = front ++ (marked ++ back) ∧
    d.labels.map Label.span = [⟨Text.byteLength front, Text.byteLength marked⟩] ∧
    Text.lineOf source (Text.byteLength front) = front.count '\n' + 1 ∧
    d.line = (if t.isEnd || t.item.isIllegal then some (front.count '\n' + 1) else none) ∧
    (t.isEnd = false → t.pos = Pos.advance ⟨0, 0⟩ front ∧ marked = t.item.source) ∧
    (t.isEnd = true → t.pos = Pos.advance ⟨0, 0⟩ source ∧ marked = source.getLast?.toList ∧ back = [])

namespace Text

/-- A text is its last character behind the others, or empty. -/
theorem exists_eq_append_getLast? (t : Text) : ∃ front, t = front ++ t.getLast?.toList := by
  rcases t.eq_nil_or_concat with rfl | ⟨front, c, rfl⟩
  · exact ⟨[], rfl⟩
  · refine ⟨front, ?_⟩
    rw [List.concat_eq_append, List.getLast?_concat]
    rfl

/-- The last character begins where all in front of it ends. -/
theorem lastSpan_of_append {t front : Text} (h : t = front ++ t.getLast?.toList) :
    t.lastSpan = ⟨byteLength front, byteLength t.getLast?.toList⟩ := by
  have hlength := congrArg byteLength h
  rw [byteLength_append] at hlength
  unfold lastSpan
  cases hlast : t.getLast? with
  | none =>
    rw [List.getLast?_eq_none_iff.mp hlast] at hlength
    exact congrArg (Span.mk · 0) hlength
  | some c =>
    rw [hlast] at hlength
    have hstart : byteLength t - c.utf8Size = byteLength front := by
      rw [hlength]
      exact Nat.add_sub_cancel _ _
    exact congrArg (Span.mk · c.utf8Size) hstart

end Text

/-- The end of input stands behind the whole source. -/
theorem pos_of_isEnd {source : Text} {t : Token} (ht : t ∈ tokens source) (hend : t.isEnd = true) :
    t.pos = Pos.advance ⟨0, 0⟩ source := by
  obtain ⟨q, htokens, -⟩ := exists_tokens_eq source
  have hbefore := isEnd_of_mem_tokensBeforeEnd source
  have hq := (htokens ▸ scans_tokens source).pos_of_end hbefore
  rw [htokens] at ht
  rcases List.mem_append.mp ht with ht | ht
  · rw [hbefore t ht] at hend
    cases hend
  · cases List.mem_singleton.mp ht
    exact hq

namespace SyntaxError

/-- Errors about faults and the end of input count the line of their label, the others none. -/
theorem line?_of_blames {e : SyntaxError} {t : Token} (h : e.Blames t) (source : Text) :
    e.line? source = if t.isEnd || t.item.isIllegal then
      some (Text.lineOf source (e.span source).start) else none := by
  cases e with
  | illegal fault pos =>
    cases h
    rfl
  | unexpected expected found =>
    obtain ⟨rfl, hend, hlegal⟩ := h
    rw [hend, Lexeme.isIllegal_eq_false_iff.mpr hlegal]
    rfl
  | endOfInput pos =>
    cases h
    rfl
  | numberTooLarge numeral =>
    cases h
    rfl

/-- Scanning ends behind the source, so an early end is marked on its last character. -/
theorem span_of_isEnd {source : Text} {e : SyntaxError} {t : Token} (h : e.Blames t)
    (ht : t ∈ tokens source) (he : e.isEnd = true) : e.span source = source.lastSpan := by
  cases e with
  | endOfInput pos =>
    cases h
    have hpos : pos = Pos.advance ⟨0, 0⟩ source := pos_of_isEnd ht rfl
    have hbyte : pos.byte = Text.byteLength source := by
      rw [hpos]
      exact Nat.zero_add _
    have htake := Text.takeBytes_byteLength_append source []
    rw [List.append_nil, ← hbyte] at htake
    rw [span, htake]
  | _ => cases he

/-- An error that blames a token of a source points at it. -/
theorem pointsAt_of_blames {source : Text} {e : SyntaxError} {t : Token} (h : e.Blames t)
    (ht : t ∈ tokens source) (name : String) : (e.diagnostic ⟨name, source⟩).PointsAt source t := by
  have hline := line?_of_blames h source
  have hend := isEnd_of_blames h
  cases he : e.isEnd with
  | true =>
    obtain ⟨front, hfront⟩ := source.exists_eq_append_getLast?
    have hspan : e.span source = ⟨Text.byteLength front, _⟩ :=
      (span_of_isEnd h ht he).trans (Text.lastSpan_of_append hfront)
    have hcount := Text.lineOf_append front source.getLast?.toList
    rw [← hfront] at hcount
    rw [hspan, hcount] at hline
    refine ⟨front, source.getLast?.toList, [], ?_, congrArg (fun s => [s]) hspan, hcount, hline,
      fun hne => ?_, fun _ => ⟨pos_of_isEnd ht (hend.trans he), rfl, rfl⟩⟩
    · rw [List.append_nil]
      exact hfront
    · rw [hend, he] at hne
      cases hne
  | false =>
    obtain ⟨front, back, hsource, hpos⟩ := (scans_tokens source).exists_of_mem ht
    have hspan : e.span source = ⟨Text.byteLength front, Text.byteLength t.item.source⟩ := by
      rw [span_of_blames h he, Token.span, hpos]
      simp [Pos.advance]
    have hcount := Text.lineOf_append front (t.item.source ++ back)
    rw [← hsource] at hcount
    rw [hspan, hcount] at hline
    refine ⟨front, t.item.source, back, hsource, congrArg (fun s => [s]) hspan, hcount, hline,
      fun _ => ⟨hpos, rfl⟩, fun hne => ?_⟩
    rw [hend, he] at hne
    cases hne

end SyntaxError

namespace Parser

/-- A call that fails blames the token that is next, or the numeral that it took last. -/
theorem StandsIn.exists_blamed {p p' : Parser} {source : Text} (hp : p.StandsIn source)
    {e : SyntaxError} (h : p.expression = (.error e, p')) :
    ∃ t, (p'.current? = some t ∨ p'.consumed.getLast? = some t) ∧ e.Blames t ∧
      t ∈ tokens source := by
  obtain ⟨taken, htaken⟩ := hp.exists_takes
  have hstands := hp.expression
  have hconsumed := htaken.consumed_eq
  have hverdict := htaken.verdict
  rw [h] at hstands hconsumed hverdict
  cases hverdict with
  | @refused t hhead expected =>
    refine ⟨t, .inl hhead, t.blames_refusal expected, ?_⟩
    rw [← hstands.consumed_append_rest]
    exact List.mem_append_right _ (List.mem_of_head? hhead)
  | @spoiled numeral hlast =>
    have hlast' : p'.consumed.getLast? = some ⟨.integer numeral.item, numeral.pos⟩ := by
      rw [hconsumed, List.getLast?_append, hlast]
      rfl
    refine ⟨_, .inr hlast', rfl, ?_⟩
    rw [← hstands.consumed_append_rest]
    exact List.mem_append_left _ (List.mem_of_getLast? hlast')

end Parser

/-- Every error points into its source. Where reading a program stops, and where a call for an
expression stops, behind any number of calls whatever came of them, the diagnostic points at the
token that the error is about. -/
theorem diagnostics_point_into_source (source : Text) (name : String) :
    (∀ e, Program.parse source = .error e → ∃ before t after,
        tokens source = before ++ t :: after ∧ (Reader.start.after? before).isSome = true ∧
        e.Blames t ∧ (e.diagnostic ⟨name, source⟩).PointsAt source t) ∧
      ∀ n e p', ((Parser.ofSource source).after n).expression = (.error e, p') →
        ∃ t, (p'.current? = some t ∨ p'.consumed.getLast? = some t) ∧
          e.Blames t ∧ (e.diagnostic ⟨name, source⟩).PointsAt source t := by
  refine ⟨?_, ?_⟩
  · intro e h
    obtain ⟨before, t, after, r, htokens, hafter, hblames, -⟩ := Program.exists_blamed h
    have ht : t ∈ tokens source := by simp [htokens]
    refine ⟨before, t, after, htokens, ?_, hblames, SyntaxError.pointsAt_of_blames hblames ht name⟩
    rw [hafter]
    rfl
  · intro n e p' h
    obtain ⟨t, hstop, hblames, ht⟩ := (Parser.StandsIn.after source n).exists_blamed h
    exact ⟨t, hstop, hblames, SyntaxError.pointsAt_of_blames hblames ht name⟩

/-- The string is refused behind letters of two bytes; the calls go on behind it, up to the end. -/
theorem refused_string_and_early_end_are_marked :
    let source := "λ\n(defvar \"ü\"".toList
    let found : Token := ⟨.string ['ü'], ⟨10, 11⟩⟩
    Program.parse source = .error (.unexpected .identifier found) ∧
      ((SyntaxError.unexpected .identifier found).diagnostic ⟨"<input>", source⟩).PointsAt source
        found ∧ found.span = ⟨11, 4⟩ ∧
      ((Parser.ofSource source).after 3).expression.1 = .error (.endOfInput ⟨13, 15⟩) ∧
      ∃ t, ((SyntaxError.endOfInput ⟨13, 15⟩).diagnostic ⟨"<input>", source⟩).PointsAt source t ∧
        t.isEnd = true ∧ (SyntaxError.endOfInput ⟨13, 15⟩).span source = ⟨14, 1⟩ := by
  intro source found
  have htokens : tokens source =
      [⟨.ident ['λ'], ⟨0, 0⟩⟩, ⟨.leftParen, ⟨2, 3⟩⟩, ⟨.ident Expr.defvarWord, ⟨3, 4⟩⟩, found,
        ⟨.endOfInput, ⟨13, 15⟩⟩] := by
    decide +kernel
  have hparse : Program.parse source = .error (.unexpected .identifier found) := by
    rw [Program.parse, htokens]
    rfl
  have hcall : ((Parser.ofSource source).after 3).expression.1 =
      .error (.endOfInput ⟨13, 15⟩) := by
    change ((Parser.mk [] (tokens source)).after 3).expression.1 = _
    rw [htokens]
    rfl
  obtain ⟨hprogram, hcalls⟩ := diagnostics_point_into_source source "<input>"
  obtain ⟨before, t, after, -, -, ⟨rfl, -⟩, hfound⟩ := hprogram _ hparse
  obtain ⟨t, -, rfl, hlast⟩ := hcalls 3 (.endOfInput ⟨13, 15⟩) _ (Prod.ext hcall rfl)
  exact ⟨hparse, hfound, by decide +kernel, hcall, _, hlast, rfl, by decide +kernel⟩

end Sexpr
