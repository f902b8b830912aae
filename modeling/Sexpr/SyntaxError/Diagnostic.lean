import Sexpr.Diagnostic
import Sexpr.SyntaxError

/-!
The wording of the errors that keep a source from being a program, and where they point.
-/

namespace Sexpr

namespace Fault

def message : Fault → String
  | character c => s!"Unexpected token '{c}'"
  | unterminatedString _ => "unterminated double quote string"
  | malformedNumber numeral => s!"malformed number '{String.ofList numeral}'"

def help : Fault → String
  | character c => s!"remove or correct the token: `{c}`"
  | unterminatedString _ => "strings have no escape sequences, every `\"` opens or closes one"
  | malformedNumber _ => "a number may contain at most one `.`"

def label : Fault → String
  | character _ => "this character"
  | unterminatedString _ =>
    "Syntax Error: Missing trailing `\"` symbol to terminate the string literal"
  | malformedNumber _ => "this numeric literal"

end Fault

namespace SyntaxError

def message : SyntaxError → String
  | illegal fault _ => fault.message
  | unexpected expected found => s!"expected {expected.describe}, found {found.item.describe}"
  | endOfInput _ => "Unexpected end of file"
  | numberTooLarge numeral =>
    s!"invalid numeric literal '{String.ofList numeral.item}': " ++
      "number too large to fit in target type"

def code : SyntaxError → Option String
  | unexpected .. => some "parse::unexpected_token"
  | numberTooLarge _ => some "parse::number_literal"
  | illegal .. | endOfInput _ => none

def help : SyntaxError → Option String
  | illegal fault _ => some fault.help
  | unexpected .. => none
  | endOfInput _ =>
    some "The input ended unexpectedly, possibly due to a missing `)` or `]`."
  | numberTooLarge _ => some "integers must fit in 64 bits"

def label : SyntaxError → String
  | illegal fault _ => fault.label
  | unexpected .. => "here"
  | endOfInput _ => "Syntax Error: Unexpected end of file"
  | numberTooLarge _ => "this numeric literal"

def diagnostic (source : Source) (e : SyntaxError) : Diagnostic where
  message := e.message
  code := e.code
  help := e.help
  labels := [⟨e.label, e.span source.text⟩]
  line := e.line? source.text
  sourceName := some source.name

def report (source : Text) (e : SyntaxError) : Option String :=
  (e.line? source).bind fun n =>
    match e with
    | illegal (.character c) _ => some s!"[line {n}] Error: Unexpected character: {c}"
    | illegal (.unterminatedString _) _ => some s!"[line {n}] Error: Unterminated string"
    | illegal (.malformedNumber numeral) _ =>
      some s!"[line {n}] Error: Malformed number: {String.ofList numeral}"
    | endOfInput _ => some s!"[line {n}] Error: Unexpected end of file"
    | unexpected .. | numberTooLarge _ => none

end SyntaxError

end Sexpr
