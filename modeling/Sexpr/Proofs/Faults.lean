import Sexpr.Command
import Sexpr.Proofs.Prefixes
import Sexpr.Proofs.Tiling

/-! Faults of the scanner as the commands report them. Reading takes tokens up to the one that it is
refused at, and never takes a fault; listing stops at the first fault. So a fault that reading reports
has no other in front of it and is the one that listing reports, and a source with a fault is no
program, whatever is wrong with it in front of the fault. -/
namespace Sexpr

/-- No token behind another one begins where that one does, unless that is the end of input. -/
theorem start_lt_of_tokens_eq {source : Text} {before after : List Token} {t u : Token}
    (h : tokens source = before ++ t :: after) (ht : t.isEnd = false) (hu : u ∈ after) :
    t.span.start < u.span.start := by
  have hordered := (scans_tokens source).pairwise_span
  rw [h] at hordered
  have hstop : t.span.stop ≤ u.span.start :=
    (List.pairwise_cons.mp (List.pairwise_append.mp hordered).2.1).1 u hu
  obtain ⟨pos, htokens, hspelled⟩ := exists_tokens_eq source
  have hmem : t ∈ tokensBeforeEnd source := by
    have hmem : t ∈ tokens source := by simp [h]
    rw [htokens] at hmem
    rcases List.mem_append.mp hmem with hmem | hmem
    · exact hmem
    · cases List.mem_singleton.mp hmem
      cases ht
  have hlength : 0 < t.span.length :=
    Text.byteLength_pos (Lexeme.source_ne_nil (hspelled t hmem))
  rw [Span.stop] at hstop
  omega

namespace Token

theorem fault?_eq_none_of_isIllegal {t : Token} (h : t.item.isIllegal = false) :
    t.fault? = none := by
  obtain ⟨l, p⟩ := t
  cases l with
  | illegal fault => cases h
  | _ => rfl

theorem findSome?_fault?_eq_none {ts : List Token} (h : ∀ t ∈ ts, t.item.isIllegal = false) :
    ts.findSome? fault? = none :=
  List.findSome?_eq_none_iff.mpr fun t ht => fault?_eq_none_of_isIllegal (h t ht)

end Token

theorem Reader.isIllegal_of_after? {r r' : Reader} {ts : List Token} (h : r.after? ts = some r') :
    ∀ t ∈ ts, t.item.isIllegal = false :=
  fun t ht => Lexeme.isIllegal_eq_false_iff.mpr (plain_of_after? h t ht).2

namespace SyntaxError

theorem eq_of_blames_illegal {e : SyntaxError} {fault : Fault} {pos : Pos}
    (h : e.Blames ⟨.illegal fault, pos⟩) : e = .illegal fault pos := by
  cases e with
  | illegal fault' pos' =>
    cases h
    rfl
  | unexpected expected found => exact absurd rfl (h.2.2 fault)
  | endOfInput pos => cases h
  | numberTooLarge numeral => cases h

end SyntaxError

namespace Command

variable {hasRoom : Nat → Bool} {source : Text}

/-- Listing stops at the first fault and reports it. -/
theorem tokenizeOutcome_of_first_fault {before after : List Token} {fault : Fault} {pos : Pos}
    (h : tokens source = before ++ ⟨.illegal fault, pos⟩ :: after)
    (hbefore : ∀ t ∈ before, t.item.isIllegal = false) :
    (tokenizeOutcome source).failure = some (.reading (.illegal fault pos)) ∧
      (tokenizeOutcome source).exitCode = 65 := by
  have hfind : (tokens source).findSome? Token.fault? = some (.illegal fault pos) := by
    rw [h, List.findSome?_append, Token.findSome?_fault?_eq_none hbefore]
    rfl
  have hfailure : (tokenizeOutcome source).failure = some (.reading (.illegal fault pos)) :=
    congrArg (Option.map Failure.reading) hfind
  refine ⟨hfailure, ?_⟩
  change (if (tokenizeOutcome source).failure.isSome then 65 else 0) = 65
  rw [hfailure]
  rfl

/-- Without a fault the listing is complete. -/
theorem exists_fault_of_exitCode (h : (tokenizeOutcome source).exitCode = 65) :
    ¬∀ t ∈ tokens source, t.item.isIllegal = false := by
  intro hall
  have hfind := Token.findSome?_fault?_eq_none hall
  have hexit : (tokenizeOutcome source).exitCode = 0 := by
    simp only [tokenizeOutcome, hfind, Option.map_none, Option.isSome_none, Bool.false_eq_true,
      if_false]
  rw [hexit] at h
  cases h

/-- A source that is no program is neither shown nor run. -/
theorem outcome_of_parse_error {c : Command} (hc : c ≠ tokenize) {e : SyntaxError}
    (h : Program.parse source = .error e) :
    c.outcome hasRoom source = ⟨[], some (.reading e), 1⟩ := by
  cases c with
  | tokenize => exact absurd rfl hc
  | parse => simp only [outcome, parseOutcome, h]
  | run =>
    simp only [outcome, runOutcome, Session.run, h]
    rfl

/-- Only errors of reading are reported with a line. -/
theorem exists_parse_error_of_report {c : Command} (hc : c ≠ tokenize) {line : String}
    (h : (c.outcome hasRoom source).report source = some line) :
    ∃ e, Program.parse source = .error e ∧ e.report source = some line := by
  cases hp : Program.parse source with
  | error e =>
    rw [outcome_of_parse_error hc hp] at h
    exact ⟨e, rfl, h⟩
  | ok p =>
    cases c with
    | tokenize => exact absurd rfl hc
    | parse => simp [outcome, parseOutcome, hp, Outcome.report] at h
    | run =>
      simp only [outcome, runOutcome, Session.run, hp] at h
      generalize (p.eval hasRoom).run Session.start = r at h
      obtain ⟨_ | _, _⟩ := r <;> cases h

end Command

/-- An error that points at a fault is the report of that fault. -/
theorem Program.eq_illegal_of_start_eq {source : Text} {e : SyntaxError}
    (hparse : parse source = .error e) {fault : Fault} {pos : Pos}
    (hfault : ⟨.illegal fault, pos⟩ ∈ tokens source)
    (hstart : (e.span source).start = pos.byte) : e = .illegal fault pos := by
  obtain ⟨before, u, after, r, htokens, hafter, hblames, hlast⟩ := exists_blamed hparse
  have hmem : u = ⟨.illegal fault, pos⟩ ∨ ⟨.illegal fault, pos⟩ ∈ after := by
    rw [htokens] at hfault
    rcases List.mem_append.mp hfault with hfault | hfault
    · cases Reader.isIllegal_of_after? hafter _ hfault
    · exact (List.mem_cons.mp hfault).imp Eq.symm id
  rcases hmem with rfl | hmem
  · exact SyntaxError.eq_of_blames_illegal hblames
  · have hend : e.isEnd = false := by
      rw [Bool.eq_false_iff]
      intro he
      rw [hlast he] at hmem
      cases hmem
    have hlt := start_lt_of_tokens_eq htokens
      ((SyntaxError.isEnd_of_blames hblames).trans hend) hmem
    rw [← SyntaxError.span_of_blames hblames hend source, hstart] at hlt
    exact absurd hlt (Nat.lt_irrefl _)

open Command in
/-- The commands agree about faults of the scanner. What listing stops at keeps a source from being
shown and from being run; what the others report with a line is what listing reports, but for an end
of input that comes too early; and an error that points at a fault is the report of that fault. -/
theorem commands_agree_about_faults (hasRoom : Nat → Bool) (source : Text) :
    ((tokenize.outcome hasRoom source).exitCode = 65 → ∀ c, c ≠ tokenize →
        (c.outcome hasRoom source).exitCode = 1 ∧ (c.outcome hasRoom source).stdout = []) ∧
      (∀ c line, c ≠ tokenize → (c.outcome hasRoom source).report source = some line →
        (∃ n : Nat, line = s!"[line {n}] Error: Unexpected end of file") ∨
          (tokenize.outcome hasRoom source).exitCode = 65 ∧
            (tokenize.outcome hasRoom source).report source = some line) ∧
      (∀ p, Program.parse source = .ok p → ∀ t ∈ tokens source, t.item.isIllegal = false) ∧
      ∀ e, Program.parse source = .error e → ∀ t ∈ tokens source, ∀ fault,
        t.item = .illegal fault → (e.span source).start = t.span.start →
          e = .illegal fault t.pos := by
  refine ⟨?_, ?_, fun p => Program.isIllegal_of_parse, ?_⟩
  · intro hexit c hc
    cases hp : Program.parse source with
    | ok p => exact absurd (Program.isIllegal_of_parse hp) (exists_fault_of_exitCode hexit)
    | error e =>
      rw [outcome_of_parse_error hc hp]
      exact ⟨rfl, rfl⟩
  · intro c line hc hline
    obtain ⟨e, hparse, hreport⟩ := exists_parse_error_of_report hc hline
    cases e with
    | unexpected expected found => cases hreport
    | numberTooLarge numeral => cases hreport
    | endOfInput pos => exact .inl ⟨_, (Option.some.inj hreport).symm⟩
    | illegal fault pos =>
      obtain ⟨before, t, after, r, htokens, hafter, rfl, -⟩ := Program.exists_blamed hparse
      obtain ⟨hfailure, hexit⟩ := tokenizeOutcome_of_first_fault htokens
        (Reader.isIllegal_of_after? hafter)
      refine .inr ⟨hexit, ?_⟩
      rw [Outcome.report, outcome, hfailure]
      exact hreport
  · intro e hparse t ht fault hfault hstart
    obtain ⟨l, pos⟩ := t
    cases hfault
    exact Program.eq_illegal_of_start_eq hparse ht hstart

open Command in
/-- The fault stands behind a statement that would print, and in front of another fault. -/
theorem malformed_number_stops_every_command :
    let hasRoom := fun _ => true
    let source := "(print 1)\n(+ 1.2.3 %)".toList
    (run.outcome hasRoom source).exitCode = 1 ∧ (run.outcome hasRoom source).stdout = [] ∧
      (tokenize.outcome hasRoom source).exitCode = 65 ∧
      (tokenize.outcome hasRoom source).report source =
        some "[line 2] Error: Malformed number: 1.2.3" := by
  intro hasRoom source
  have htokens : tokens source =
      [⟨.leftParen, ⟨0, 0⟩⟩, ⟨.ident Builtin.print.name, ⟨1, 1⟩⟩, ⟨.integer ['1'], ⟨7, 7⟩⟩,
        ⟨.rightParen, ⟨8, 8⟩⟩, ⟨.leftParen, ⟨10, 10⟩⟩, ⟨.ident ['+'], ⟨11, 11⟩⟩,
        ⟨.illegal (.malformedNumber "1.2.3".toList), ⟨13, 13⟩⟩,
        ⟨.illegal (.character '%'), ⟨19, 19⟩⟩, ⟨.rightParen, ⟨20, 20⟩⟩,
        ⟨.endOfInput, ⟨21, 21⟩⟩] := by
    decide +kernel
  have hparse : Program.parse source =
      .error (.illegal (.malformedNumber "1.2.3".toList) ⟨13, 13⟩) := by
    rw [Program.parse, htokens]
    rfl
  have hreport : (parse.outcome hasRoom source).report source =
      some "[line 2] Error: Malformed number: 1.2.3" := by
    rw [outcome_of_parse_error (by decide) hparse]
    decide +kernel
  have hagree := commands_agree_about_faults hasRoom source
  rcases hagree.2.1 parse _ (by decide) hreport with ⟨n, hn⟩ | ⟨hexit, htokenize⟩
  · have hlast := congrArg (fun line => line.toList.getLast?) hn
    have hend : "] Error: Unexpected end of file".toList.getLast? = some 'e' := by decide
    change some '3' = ("[line " ++ toString n ++ "] Error: Unexpected end of file").toList.getLast?
      at hlast
    rw [String.toList_append, List.getLast?_append, hend] at hlast
    cases hlast
  · obtain ⟨hrun, hstdout⟩ := hagree.1 hexit run (by decide)
    exact ⟨hrun, hstdout, hexit, htokenize⟩

end Sexpr
