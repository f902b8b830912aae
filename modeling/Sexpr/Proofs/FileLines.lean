import Sexpr.Proofs.Faults

/-! Lines that reports name, against the lines of the file. A command drops the newlines at both ends
of a file before it reads it, and counts lines in what is left: the number that it reports falls short
of the line of the file by the newlines that the file begins with. -/
namespace Sexpr

namespace Text

/-- The 1-based line on which a character stands. -/
def lineAt (t : Text) (offset : Nat) : Nat :=
  (t.take offset).count '\n' + 1

def leadingNewlines (t : Text) : Nat :=
  (t.takeWhile (· == '\n')).length

theorem lineAt_append (t u : Text) : lineAt (t ++ u) t.length = t.count '\n' + 1 := by
  rw [lineAt, List.take_left]

/-- Trimming leaves a text as it is between what it takes off the two ends. -/
theorem exists_trim_eq (p : Char → Bool) (t : Text) :
    ∃ trailing, t = t.takeWhile p ++ (t.trim p ++ trailing) := by
  refine ⟨((t.dropWhile p).reverse.takeWhile p).reverse, ?_⟩
  have hback : t.trim p ++ ((t.dropWhile p).reverse.takeWhile p).reverse = t.dropWhile p := by
    rw [trim, ← List.reverse_append, List.takeWhile_append_dropWhile, List.reverse_reverse]
  rw [hback, List.takeWhile_append_dropWhile]

theorem count_takeWhile_newline (t : Text) :
    (t.takeWhile (· == '\n')).count '\n' = t.leadingNewlines := by
  refine List.count_eq_length.mpr ?_
  intro c hc
  have hall := List.all_eq_true.mp (List.all_takeWhile (p := (· == '\n')) (l := t))
  exact (eq_of_beq (hall c hc)).symm

theorem leadingNewlines_eq_zero_iff (t : Text) : t.leadingNewlines = 0 ↔ t.head? ≠ some '\n' := by
  cases t with
  | nil => simp [leadingNewlines]
  | cons c t => by_cases hc : c = '\n' <;> simp [leadingNewlines, hc]

end Text

def Fault.reportOn (n : Nat) : Fault → String
  | character c => s!"[line {n}] Error: Unexpected character: {c}"
  | unterminatedString _ => s!"[line {n}] Error: Unterminated string"
  | malformedNumber numeral => s!"[line {n}] Error: Malformed number: {String.ofList numeral}"

/-- A fault is reported with the line of its place in the trimmed text. -/
theorem SyntaxError.report_illegal (source : Text) (fault : Fault) (pos : Pos) :
    (illegal fault pos).report source = some (fault.reportOn (Text.lineOf source pos.byte)) := by
  cases fault <;> rfl

theorem Token.blames_of_fault? {t : Token} {e : SyntaxError} (h : t.fault? = some e) :
    e.Blames t := by
  obtain ⟨l, pos⟩ := t
  cases l with
  | illegal fault =>
    cases h
    rfl
  | _ => cases h

namespace Command

variable {hasRoom : Nat → Bool} {source : Text}

/-- Whatever a command reports, it blames a token of the source for it. -/
theorem exists_blamed_of_report {c : Command} {line : String}
    (h : (c.outcome hasRoom source).report source = some line) :
    ∃ e t, (c.outcome hasRoom source).failure = some (.reading e) ∧ e.report source = some line ∧
      t ∈ tokens source ∧ e.Blames t := by
  by_cases hc : c = tokenize
  · subst hc
    have hfailure : (tokenize.outcome hasRoom source).failure =
        ((tokens source).findSome? Token.fault?).map Failure.reading := rfl
    rw [Outcome.report, hfailure] at h
    cases hfault : (tokens source).findSome? Token.fault? with
    | none =>
      rw [hfault] at h
      cases h
    | some e =>
      rw [hfault] at h hfailure
      obtain ⟨t, ht, he⟩ := List.exists_of_findSome?_eq_some hfault
      exact ⟨e, t, hfailure, h, ht, Token.blames_of_fault? he⟩
  · obtain ⟨e, hparse, hreport⟩ := exists_parse_error_of_report hc h
    obtain ⟨before, t, after, r, htokens, -, hblames, -⟩ := Program.exists_blamed hparse
    refine ⟨e, t, ?_, hreport, by simp [htokens], hblames⟩
    rw [outcome_of_parse_error hc hparse]

end Command

/-- Where a token of the trimmed text stands in the file, and on which line. -/
theorem place_of_mem_tokens {file source trailing : Text}
    (hfile : file = file.takeWhile (· == '\n') ++ (source ++ trailing)) {t : Token}
    (ht : t ∈ tokens source) :
    t.item.source <+: file.drop (file.leadingNewlines + t.pos.offset) ∧
      Text.lineOf source t.pos.byte + file.leadingNewlines =
        file.lineAt (file.leadingNewlines + t.pos.offset) := by
  obtain ⟨before, after, hsource, hpos⟩ := (scans_tokens source).exists_of_mem ht
  have hoffset : t.pos.offset = before.length := by simp [hpos, Pos.advance]
  have hbyte : t.pos.byte = Text.byteLength before := by simp [hpos, Pos.advance]
  have hcount := Text.count_takeWhile_newline file
  rw [Text.leadingNewlines] at hcount ⊢
  generalize file.takeWhile (· == '\n') = front at hfile hcount ⊢
  have hsplit : file = (front ++ before) ++ (t.item.source ++ (after ++ trailing)) := by
    rw [hfile, hsource]
    simp only [List.append_assoc]
  rw [hoffset, ← List.length_append, hsplit]
  refine ⟨?_, ?_⟩
  · rw [List.drop_left]
    exact List.prefix_append _ _
  · rw [Text.lineAt_append, hsource, hbyte, Text.lineOf_append, List.count_append, hcount]
    omega

/-- A report about a fault names the line of the file that the fault begins on if and only if the file
does not begin with a newline; in general it falls short by the newlines in front. -/
theorem reported_line_is_line_of_file_iff (hasRoom : Nat → Bool) {contents : ByteArray}
    {file : String} (h : String.fromUTF8? contents = some file) :
    let text : Text := file.toList
    ∃ source, Command.sourceOf? contents = some source ∧
      ∀ (c : Command) (line : String), (c.outcome hasRoom source).report source = some line →
        (∃ pos, (c.outcome hasRoom source).failure = some (.reading (.endOfInput pos))) ∨
          ∃ fault pos n place,
            (c.outcome hasRoom source).failure = some (.reading (.illegal fault pos)) ∧
            line = fault.reportOn n ∧
            ⟨.illegal fault, pos⟩ ∈ tokens source ∧
            place = text.leadingNewlines + pos.offset ∧ fault.text <+: text.drop place ∧
            n + text.leadingNewlines = text.lineAt place ∧
            (n = text.lineAt place ↔ text.head? ≠ some '\n') := by
  intro text
  have hsource : Command.sourceOf? contents = some (text.trim (· == '\n')) := by
    rw [Command.sourceOf?, h]
    rfl
  obtain ⟨trailing, hfile⟩ := text.exists_trim_eq (· == '\n')
  generalize text.trim (· == '\n') = source at hsource hfile
  refine ⟨source, hsource, ?_⟩
  intro c line hline
  obtain ⟨e, t, hfailure, hreport, ht, hblames⟩ := Command.exists_blamed_of_report hline
  cases e with
  | unexpected expected found => cases hreport
  | numberTooLarge numeral => cases hreport
  | endOfInput pos => exact .inl ⟨pos, hfailure⟩
  | illegal fault pos =>
    cases hblames
    rw [SyntaxError.report_illegal] at hreport
    obtain ⟨hplace, hnumber⟩ := place_of_mem_tokens hfile ht
    refine .inr ⟨fault, pos, _, _, hfailure, (Option.some.inj hreport).symm, ht, rfl, hplace,
      hnumber, ?_⟩
    rw [← Text.leadingNewlines_eq_zero_iff]
    dsimp only at hnumber
    omega

/-- The string goes over the end of its line, and the letters in front are of two bytes. -/
theorem report_behind_long_string_names_line_of_file :
    let hasRoom := fun _ => true
    ∃ source, Command.sourceOf? "(print \"é\nü\")\n 1.2.3\n".toUTF8 = some source ∧
      (Command.run.outcome hasRoom source).report source =
        some "[line 3] Error: Malformed number: 1.2.3" ∧
      ∃ place, "1.2.3".toList <+: "(print \"é\nü\")\n 1.2.3\n".toList.drop place ∧
        Text.lineAt "(print \"é\nü\")\n 1.2.3\n".toList place = 3 := by
  intro hasRoom
  have hutf8 : String.fromUTF8? "(print \"é\nü\")\n 1.2.3\n".toUTF8 =
      some "(print \"é\nü\")\n 1.2.3\n" := by
    decide +kernel
  obtain ⟨source, hsource, hlines⟩ := reported_line_is_line_of_file_iff hasRoom hutf8
  refine ⟨source, hsource, ?_⟩
  have hreads : Command.sourceOf? "(print \"é\nü\")\n 1.2.3\n".toUTF8 =
      some "(print \"é\nü\")\n 1.2.3".toList := by
    rw [Command.sourceOf?, hutf8]
    decide +kernel
  cases hsource.symm.trans hreads
  have htokens : tokens "(print \"é\nü\")\n 1.2.3".toList =
      [⟨.leftParen, ⟨0, 0⟩⟩, ⟨.ident Builtin.print.name, ⟨1, 1⟩⟩, ⟨.string "é\nü".toList, ⟨7, 7⟩⟩,
        ⟨.rightParen, ⟨12, 14⟩⟩, ⟨.illegal (.malformedNumber "1.2.3".toList), ⟨15, 17⟩⟩,
        ⟨.endOfInput, ⟨20, 22⟩⟩] := by
    decide +kernel
  have hparse : Program.parse "(print \"é\nü\")\n 1.2.3".toList =
      .error (.illegal (.malformedNumber "1.2.3".toList) ⟨15, 17⟩) := by
    rw [Program.parse, htokens]
    rfl
  have hreport : (Command.run.outcome hasRoom "(print \"é\nü\")\n 1.2.3".toList).report
      "(print \"é\nü\")\n 1.2.3".toList = some "[line 3] Error: Malformed number: 1.2.3" := by
    rw [Command.outcome_of_parse_error (by decide) hparse]
    decide +kernel
  refine ⟨hreport, ?_⟩
  rcases hlines .run _ hreport with
    ⟨pos, hend⟩ | ⟨fault, pos, n, place, hfailure, -, -, rfl, hplace, hn, -⟩
  · rw [Command.outcome_of_parse_error (by decide) hparse] at hend
    cases hend
  · rw [Command.outcome_of_parse_error (by decide) hparse] at hfailure
    cases hfailure
    exact ⟨_, hplace, by decide +kernel⟩

/-- The newline in front is not counted. -/
theorem report_behind_leading_newline_names_line_before :
    let hasRoom := fun _ => true
    ∃ source, Command.sourceOf? "\n  %".toUTF8 = some source ∧
      (Command.tokenize.outcome hasRoom source).report source =
        some "[line 1] Error: Unexpected character: %" ∧
      tokens source = [⟨.illegal (.character '%'), ⟨2, 2⟩⟩, ⟨.endOfInput, ⟨3, 3⟩⟩] ∧
      "\n  %".toList[3]? = some '%' ∧ Text.lineAt "\n  %".toList 3 = 2 := by
  intro hasRoom
  have hutf8 : String.fromUTF8? "\n  %".toUTF8 = some "\n  %" := by decide +kernel
  refine ⟨"  %".toList, ?_, ?_, ?_, ?_, ?_⟩
  · rw [Command.sourceOf?, hutf8]
    decide +kernel
  all_goals decide +kernel

end Sexpr
