import Sexpr.Token

/-!
Why a source is not a program. A fault of the scanner is blamed on the first token that has one; every
other token is blamed for standing where the grammar wants something else. At the end of input the error
points at the last character in front of it.
-/

namespace Sexpr

inductive Expected
  | expression
  | identifier
  | opening
  | closing
deriving DecidableEq

def Expected.describe : Expected → String
  | .expression => "an expression"
  | .identifier => "identifier"
  | .opening => "`(`"
  | .closing => "`)`"

inductive SyntaxError
  | illegal (fault : Fault) (pos : Pos)
  | unexpected (expected : Expected) (found : Token)
  | endOfInput (pos : Pos)
  | numberTooLarge (numeral : Located Text)
deriving DecidableEq

def Token.refusal (t : Token) (expected : Expected) : SyntaxError :=
  match t.item with
  | .illegal fault => .illegal fault t.pos
  | .endOfInput => .endOfInput t.pos
  | _ => .unexpected expected t

def Token.fault? (t : Token) : Option SyntaxError :=
  match t.item with
  | .illegal fault => some (.illegal fault t.pos)
  | _ => none

/-- The last character of a text; an empty text has an empty one. -/
def Text.lastSpan (t : Text) : Span :=
  match t.getLast? with
  | none => ⟨0, 0⟩
  | some c => ⟨Text.byteLength t - c.utf8Size, c.utf8Size⟩

namespace SyntaxError

def span (source : Text) : SyntaxError → Span
  | illegal fault pos => ⟨pos.byte, Text.byteLength fault.text⟩
  | unexpected _ found => found.span
  | endOfInput pos => Text.lastSpan (Text.takeBytes pos.byte source)
  | numberTooLarge numeral => ⟨numeral.pos.byte, Text.byteLength numeral.item⟩

def line? (source : Text) (e : SyntaxError) : Option Nat :=
  match e with
  | illegal .. | endOfInput _ => some (Text.lineOf source (e.span source).start)
  | unexpected .. | numberTooLarge .. => none

end SyntaxError

end Sexpr
