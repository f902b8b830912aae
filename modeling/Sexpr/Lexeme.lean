import Sexpr.Text

/-!
Lexemes: the pieces a source is cut into, without their places. Each lexeme knows its source, the
characters it was cut from, and its text, which is the source without the delimiters of strings and
characters. Faults are lexemes too: what they are made of is kept, and only a reader of forms
refuses them.
-/

namespace Sexpr

inductive Fault
  | character (c : Char)
  /-- A double quote that no later one closes; all that follows it belongs to the fault. -/
  | unterminatedString (body : Text)
  /-- A run of digits with two dots or more. -/
  | malformedNumber (numeral : Text)
deriving DecidableEq

def Fault.text : Fault → Text
  | .character c => [c]
  | .unterminatedString body => '"' :: body
  | .malformedNumber numeral => numeral

inductive Lexeme
  | leftParen
  | rightParen
  | leftBracket
  | rightBracket
  | quote
  | colon
  | ident (name : Text)
  | integer (numeral : Text)
  | float (numeral : Text)
  | string (body : Text)
  | character (c : Char)
  | illegal (fault : Fault)
  | endOfInput
deriving DecidableEq

namespace Lexeme

def text : Lexeme → Text
  | leftParen => ['(']
  | rightParen => [')']
  | leftBracket => ['[']
  | rightBracket => [']']
  | quote => ['\'']
  | colon => [':']
  | ident name => name
  | integer numeral => numeral
  | float numeral => numeral
  | string body => body
  | character c => [c]
  | illegal fault => fault.text
  | endOfInput => []

/-- The characters that the lexeme was cut from, delimiters included. -/
def source : Lexeme → Text
  | string body => '"' :: body ++ ['"']
  | character c => ['\'', c, '\'']
  | l => l.text

def describe : Lexeme → String
  | leftParen => "`(`"
  | rightParen => "`)`"
  | leftBracket => "`[`"
  | rightBracket => "`]`"
  | quote => "`'`"
  | colon => "`:`"
  | ident _ => "identifier"
  | integer _ => "integer"
  | float _ => "float"
  | string _ => "string"
  | character _ => "character"
  | illegal _ => "illegal token"
  | endOfInput => "end of file"

def heading : Lexeme → String
  | leftParen => "LEFT_PAREN"
  | rightParen => "RIGHT_PAREN"
  | leftBracket => "LEFT_BRACKET"
  | rightBracket => "RIGHT_BRACKET"
  | quote => "QUOTE"
  | colon => "COLON"
  | ident _ => "IDENTIFIER"
  | integer _ => "INTEGER"
  | float _ => "FLOAT"
  | string _ => "STRING"
  | character _ => "CHARACTER"
  | illegal _ => "ILLEGAL"
  | endOfInput => "EOF"

def shownValue : Lexeme → Text
  | integer numeral => numeral
  | float numeral => numeral
  | string body => body
  | character c => [c]
  | _ => "null".toList

def listing (l : Lexeme) : Text :=
  List.intercalate [' '] [l.heading.toList, l.source, l.shownValue]

def isIllegal : Lexeme → Bool
  | illegal _ => true
  | _ => false

theorem isIllegal_eq_false_iff {l : Lexeme} : l.isIllegal = false ↔ ∀ fault, l ≠ illegal fault := by
  cases l <;> simp [isIllegal]

end Lexeme

end Sexpr
