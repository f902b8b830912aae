import Sexpr.Form

/-!
Reading tokens into expressions. A parser reads one expression at a time and stands, also after an
error, behind the last token it took; a program is read whole, up to the end of input. The stream of a
source ends with the end of input; one that breaks off without it ends at a given place. Main statement:
what a parser has taken, followed by what is left, is the stream it was given.
-/

namespace Sexpr

/-- The tokens taken so far, the last one first, and those that are left. -/
structure Parser where
  trail : List Token
  rest : List Token

namespace Parser

def ofSource (source : Text) : Parser :=
  ⟨[], tokens source⟩

def consumed (p : Parser) : List Token :=
  p.trail.reverse

def read (stop : Pos) (r : Reader) (trail : List Token) :
    List Token → Except SyntaxError Expr × Parser
  | [] => (.error (.endOfInput stop), ⟨trail, []⟩)
  | t :: rest =>
    match r.step t with
    | .more r => read stop r (t :: trail) rest
    | .whole e => (.ok e, ⟨t :: trail, rest⟩)
    | .refused e => (.error e, ⟨trail, t :: rest⟩)
    | .spoiled e => (.error e, ⟨t :: trail, rest⟩)

def expression (p : Parser) : Except SyntaxError Expr × Parser :=
  read ⟨0, 0⟩ .start p.trail p.rest

theorem consumed_append_rest_read (stop : Pos) (r : Reader) (trail rest : List Token) :
    (read stop r trail rest).2.consumed ++ (read stop r trail rest).2.rest =
      trail.reverse ++ rest := by
  fun_induction read stop r trail rest <;> simp_all [consumed]

/-- A call neither loses a token nor makes one up. -/
theorem consumed_append_rest_expression (p : Parser) :
    p.expression.2.consumed ++ p.expression.2.rest = p.consumed ++ p.rest :=
  consumed_append_rest_read ⟨0, 0⟩ .start p.trail p.rest

end Parser

/-- Reads the statements of a token stream. The input may end between two statements only. -/
def Program.ofTokens (stop : Pos) (r : Reader) : List Token → Except SyntaxError Program
  | [] => if r.isStart then .ok [] else .error (.endOfInput stop)
  | t :: rest =>
    if t.isEnd && r.isStart then .ok []
    else
      match r.step t with
      | .more r => ofTokens stop r rest
      | .whole e => (e :: ·) <$> ofTokens stop .start rest
      | .refused e | .spoiled e => .error e

def Program.parse (source : Text) : Except SyntaxError Program :=
  Program.ofTokens ⟨0, 0⟩ .start (tokens source)

end Sexpr
