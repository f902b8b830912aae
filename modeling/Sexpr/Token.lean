import Sexpr.Lexeme.Scan
import Sexpr.Position

/-!
Tokens: lexemes with their places. A scanner stands somewhere in a source and hands out one token
after another; at the end of the source it hands out the end of input for ever, and as an iterator
once. The token stream of a source is what a fresh scanner hands out up to the end of input. Main
statement: a scanner that has not reached the end comes closer to it with every token.
-/

namespace Sexpr

abbrev Token := Located Lexeme

namespace Token

def span (t : Token) : Span :=
  ⟨t.pos.byte, Text.byteLength t.item.source⟩

def isEnd (t : Token) : Bool :=
  t.item == .endOfInput

end Token

/-- A place in a source and what follows it. `ended` records that the iterator has handed out the
end of input. -/
structure Scanner where
  pos : Pos
  rest : Text
  ended : Bool

namespace Scanner

def start (source : Text) : Scanner :=
  ⟨⟨0, 0⟩, source, false⟩

def nextToken (s : Scanner) : Token × Scanner :=
  let pos := s.pos.advance (s.rest.takeWhile Text.isBlank)
  match s.rest.dropWhile Text.isBlank with
  | [] => (⟨.endOfInput, pos⟩, ⟨pos, [], s.ended⟩)
  | c :: rest =>
    let (lexeme, rest) := Lexeme.cut c rest
    (⟨lexeme, pos⟩, ⟨pos.advance lexeme.source, rest, s.ended⟩)

/-- As an iterator, the scanner ends after the first end of input that it hands out. -/
def next (s : Scanner) : Option Token × Scanner :=
  if s.ended then (none, s)
  else
    let (t, s') := s.nextToken
    (some t, if t.isEnd then { s' with ended := true } else s')

theorem nextToken_nil {s : Scanner} (h : s.rest.dropWhile Text.isBlank = []) :
    s.nextToken = (⟨.endOfInput, s.pos.advance (s.rest.takeWhile Text.isBlank)⟩,
      ⟨s.pos.advance (s.rest.takeWhile Text.isBlank), [], s.ended⟩) := by
  simp only [nextToken, h]

theorem nextToken_cons {s : Scanner} {c : Char} {rest : Text}
    (h : s.rest.dropWhile Text.isBlank = c :: rest) :
    s.nextToken =
      (⟨(Lexeme.cut c rest).1, s.pos.advance (s.rest.takeWhile Text.isBlank)⟩,
        ⟨(s.pos.advance (s.rest.takeWhile Text.isBlank)).advance (Lexeme.cut c rest).1.source,
          (Lexeme.cut c rest).2, s.ended⟩) := by
  simp only [nextToken, h]

/-- Only the end of input takes nothing. -/
theorem length_nextToken {s : Scanner} (h : s.nextToken.1.isEnd = false) :
    s.nextToken.2.rest.length < s.rest.length := by
  cases hd : s.rest.dropWhile Text.isBlank with
  | nil => simp [nextToken_nil hd, Token.isEnd] at h
  | cons c rest =>
    rw [nextToken_cons hd]
    have hcut := Lexeme.length_cut c rest
    have hdrop := (List.dropWhile_suffix (l := s.rest) Text.isBlank).length_le
    rw [hd, List.length_cons] at hdrop
    exact Nat.lt_of_le_of_lt hcut hdrop

def tokens (s : Scanner) : List Token :=
  match h : s.nextToken with
  | (t, s') =>
    if ht : t.isEnd then [t]
    else
      have : s'.rest.length < s.rest.length := by
        have hlt := @length_nextToken s
        rw [h] at hlt
        exact hlt (by simpa using ht)
      t :: s'.tokens
termination_by s.rest.length

theorem tokens_of_isEnd {s : Scanner} (h : s.nextToken.1.isEnd = true) :
    s.tokens = [s.nextToken.1] := by
  rw [tokens]
  simp [h]

theorem tokens_of_not_isEnd {s : Scanner} (h : s.nextToken.1.isEnd = false) :
    s.tokens = s.nextToken.1 :: s.nextToken.2.tokens := by
  rw [tokens]
  simp [h]

end Scanner

def tokens (source : Text) : List Token :=
  (Scanner.start source).tokens

end Sexpr
