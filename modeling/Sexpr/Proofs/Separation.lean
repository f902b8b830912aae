import Sexpr.Proofs.Scanning

/-! Texts set apart by blanks. A text is scanned alike wherever it stands, and its tokens stand as much
further on as there is in front of it; a blank behind a text ends its last token like the end of input
does. So the tokens of two texts with blanks between them are those of the one and then those of the
other. Only an unclosed string would go on through the blanks. -/
namespace Sexpr

def Pos.behind (front : Text) (p : Pos) : Pos :=
  ⟨front.length + p.offset, Text.byteLength front + p.byte⟩

theorem Pos.behind_advance (front : Text) (p : Pos) (t : Text) :
    (p.advance t).behind front = (p.behind front).advance t := by
  simp [behind, advance, Nat.add_assoc]

theorem Pos.behind_start (front : Text) : Pos.behind front ⟨0, 0⟩ = Pos.advance ⟨0, 0⟩ front := by
  simp [behind, advance]

def Token.behind (front : Text) (t : Token) : Token :=
  ⟨t.item, t.pos.behind front⟩

namespace Scans

/-- A text in front of the one that is scanned moves all its tokens alike. -/
theorem behind {p : Pos} {b : Text} {ts : List Token} (h : Scans p b ts) (front : Text) :
    Scans (p.behind front) b (ts.map (Token.behind front)) := by
  induction h with
  | @done p w hw =>
    have hend : Token.behind front ⟨.endOfInput, p.advance w⟩ =
        ⟨.endOfInput, (p.behind front).advance w⟩ := by
      rw [Token.behind, Pos.behind_advance]
    rw [List.map_singleton, hend]
    exact done hw
  | @token p w l rest ts hw hl he h ih =>
    have htoken : Token.behind front ⟨l, p.advance w⟩ = ⟨l, (p.behind front).advance w⟩ := by
      rw [Token.behind, Pos.behind_advance]
    rw [Pos.behind_advance, Pos.behind_advance] at ih
    rw [List.map_cons, htoken]
    exact token hw hl he ih

end Scans

/-- Scanning takes blanks between two texts for the end of the first one: the tokens are those of the
first text up to its end of input, and then those of the second one, as they stand behind the first and
the blanks. -/
theorem separated_texts_scan_apart {a w : Text} (hw : w ≠ [])
    (hblank : ∀ c ∈ w, Text.isBlank c = true) (hclosed : ∀ t ∈ tokens a, t.item.Closed) (b : Text) :
    tokens (a ++ w ++ b) = tokensBeforeEnd a ++ (tokens b).map (Token.behind (a ++ w)) := by
  obtain ⟨c, v, rfl⟩ := List.exists_cons_of_ne_nil hw
  obtain ⟨q, htokens, -⟩ := exists_tokens_eq a
  have ha : Scans ⟨0, 0⟩ a (tokensBeforeEnd a ++ [⟨.endOfInput, q⟩]) := tokens_eq_iff.mp htokens
  have hclosed' : ∀ t ∈ tokensBeforeEnd a, t.item.Closed := by
    intro t ht
    apply hclosed
    rw [htokens]
    exact List.mem_append_left _ ht
  have hb := (scans_tokens b).behind (a ++ c :: v)
  rw [Pos.behind_start, Pos.advance_append] at hb
  have hscan := ha.append_blank (isEnd_of_mem_tokensBeforeEnd a) hclosed'
    (hblank c List.mem_cons_self) (Scans.blanks_append hblank hb)
  rw [List.append_assoc]
  exact tokens_eq_iff.mpr hscan

/-- Blanks hide that a quote follows the parenthesis between quotes, which would make it open a list;
and the string that the second text leaves open takes the rest of that text. -/
theorem parenthesis_between_quotes_ends_at_blanks :
    (∀ t ∈ tokens "λ'('".toList, t.item.Closed) ∧
      tokens ("λ'('".toList ++ "\t\r\n".toList ++ "'a' \"b ".toList) =
        [⟨.ident ['λ'], ⟨0, 0⟩⟩, ⟨.character '(', ⟨1, 2⟩⟩, ⟨.character 'a', ⟨7, 8⟩⟩,
          ⟨.illegal (.unterminatedString ['b', ' ']), ⟨11, 12⟩⟩, ⟨.endOfInput, ⟨14, 15⟩⟩] := by
  have hfirst : tokens "λ'('".toList =
      [⟨.ident ['λ'], ⟨0, 0⟩⟩, ⟨.character '(', ⟨1, 2⟩⟩, ⟨.endOfInput, ⟨4, 5⟩⟩] := by
    decide +kernel
  have hsecond : tokens "'a' \"b ".toList =
      [⟨.character 'a', ⟨0, 0⟩⟩, ⟨.illegal (.unterminatedString ['b', ' ']), ⟨4, 4⟩⟩,
        ⟨.endOfInput, ⟨7, 7⟩⟩] := by
    decide +kernel
  have hclosed : ∀ t ∈ tokens "λ'('".toList, t.item.Closed := by
    rw [hfirst]
    intro t ht body hbody
    simp only [List.mem_cons, List.not_mem_nil, or_false] at ht
    rcases ht with rfl | rfl | rfl <;> cases hbody
  have hblank : ∀ c ∈ "\t\r\n".toList, Text.isBlank c = true := by simp [Text.isBlank]
  refine ⟨hclosed, ?_⟩
  rw [separated_texts_scan_apart (by decide) hblank hclosed, tokensBeforeEnd, hfirst, hsecond]
  rfl

end Sexpr
