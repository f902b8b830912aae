import Sexpr.Lexeme
import Sexpr.Unicode.Alphabetic
import Sexpr.Unicode.WhiteSpace

/-!
Cutting the first lexeme off a text. Runs are maximal; a quote looks up to three characters ahead to
tell a character literal from a quoted list. Main statement: the source of the lexeme, followed by
what is left, is the text that was cut.
-/

namespace Sexpr.Lexeme

open Unicode

def isDigit (c : Char) : Bool :=
  '0' ≤ c && c ≤ '9'

def isNumeral (c : Char) : Bool :=
  isDigit c || c == '.'

def isIdent (c : Char) : Bool :=
  isAlphabetic c || c == '<' || c == '>' || c == '=' || c == '*' || c == '/' || c == '+' || c == '-'

/-- Whether the text after a parenthesis between quotes goes on as the elements of a list, whose
first element is itself quoted. -/
def goesOnAsList : Text → Bool
  | [] => false
  | c :: _ => !isWhiteSpace c && c != ')' && c != ']'

/-- After a quote: one character and a second quote are a literal, all else stands for itself. -/
def afterQuote (rest : Text) : Lexeme × Text :=
  match rest with
  | c :: '\'' :: after =>
    if isWhiteSpace c || (c == '(' && goesOnAsList after) then (.quote, rest)
    else (.character c, after)
  | _ => (.quote, rest)

def afterDoubleQuote (rest : Text) : Lexeme × Text :=
  match rest.dropWhile (· != '"') with
  | [] => (.illegal (.unterminatedString rest), [])
  | _ :: after => (.string (rest.takeWhile (· != '"')), after)

def ofNumeral (numeral : Text) : Lexeme :=
  match numeral.count '.' with
  | 0 => .integer numeral
  | 1 => .float numeral
  | _ => .illegal (.malformedNumber numeral)

def cut (c : Char) (rest : Text) : Lexeme × Text :=
  match c with
  | '(' => (.leftParen, rest)
  | ')' => (.rightParen, rest)
  | '[' => (.leftBracket, rest)
  | ']' => (.rightBracket, rest)
  | ':' => (.colon, rest)
  | '\'' => afterQuote rest
  | '"' => afterDoubleQuote rest
  | c =>
    if isDigit c then (ofNumeral (c :: rest.takeWhile isNumeral), rest.dropWhile isNumeral)
    else if isIdent c then (.ident (c :: rest.takeWhile isIdent), rest.dropWhile isIdent)
    else (.illegal (.character c), rest)

theorem ofNumeral_source (numeral : Text) : (ofNumeral numeral).source = numeral := by
  unfold ofNumeral
  split <;> rfl

theorem afterQuote_source (rest : Text) :
    (afterQuote rest).1.source ++ (afterQuote rest).2 = '\'' :: rest := by
  unfold afterQuote
  split
  · split <;> rfl
  · rfl

theorem afterDoubleQuote_source (rest : Text) :
    (afterDoubleQuote rest).1.source ++ (afterDoubleQuote rest).2 = '"' :: rest := by
  unfold afterDoubleQuote
  have hsplit := List.takeWhile_append_dropWhile (p := (· != '"')) (l := rest)
  split
  · simp [source, text, Fault.text]
  · rename_i c after h
    have hc : c = '"' := by
      have := List.head?_dropWhile_not (· != '"') rest
      rw [h] at this
      simpa using this
    rw [h, hc] at hsplit
    simp [source, hsplit]

/-- Nothing is lost and nothing is added. -/
theorem cut_source (c : Char) (rest : Text) :
    (cut c rest).1.source ++ (cut c rest).2 = c :: rest := by
  unfold cut
  split
  all_goals try rfl
  · exact afterQuote_source rest
  · exact afterDoubleQuote_source rest
  · split
    · simp [ofNumeral_source, List.takeWhile_append_dropWhile]
    · split
      · simp [source, text, List.takeWhile_append_dropWhile]
      · rfl

theorem length_afterQuote (rest : Text) : (afterQuote rest).2.length ≤ rest.length := by
  unfold afterQuote
  split
  · split
    · exact Nat.le_refl _
    · simp only [List.length_cons]
      omega
  · exact Nat.le_refl _

theorem length_afterDoubleQuote (rest : Text) :
    (afterDoubleQuote rest).2.length ≤ rest.length := by
  unfold afterDoubleQuote
  split
  · exact Nat.zero_le _
  · rename_i c after h
    have := (List.dropWhile_suffix (l := rest) (· != '"')).length_le
    rw [h] at this
    exact Nat.le_of_succ_le this

/-- Every cut takes at least its first character. -/
theorem length_cut (c : Char) (rest : Text) : (cut c rest).2.length ≤ rest.length := by
  unfold cut
  split
  all_goals try exact Nat.le_refl _
  · exact length_afterQuote rest
  · exact length_afterDoubleQuote rest
  · split
    · exact (List.dropWhile_suffix _).length_le
    · split
      · exact (List.dropWhile_suffix _).length_le
      · exact Nat.le_refl _

end Sexpr.Lexeme
