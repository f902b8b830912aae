import Sexpr.Parser
import Sexpr.Eval
import Sexpr.SyntaxError.Diagnostic
import Sexpr.EvalError.Diagnostic

/-!
Running sources in a session. A source is read whole before any of it is evaluated, so a source that
is no program has no effect.
-/

namespace Sexpr

inductive Failure
  | reading (e : SyntaxError)
  | evaluating (e : EvalError)
deriving DecidableEq

def Failure.diagnostic (source : Source) : Failure → Diagnostic
  | reading e => e.diagnostic source
  | evaluating e => e.diagnostic

namespace Session

abbrev Answer := Except Failure (Option Value)

variable (hasRoom : Nat → Bool)

def run (s : Session) (source : Text) : Answer × Session :=
  match Program.parse source with
  | .error e => (.error (.reading e), s)
  | .ok p =>
    let (answer, s') := (p.eval hasRoom).run s
    (answer.mapError .evaluating, s')

/-- Evaluates statements one by one, going on after errors. -/
def evalEach (s : Session) : Program → List (Except EvalError (Option Value)) × Session
  | [] => ([], s)
  | e :: es =>
    let (answer, s') := (e.eval hasRoom).run s
    let (answers, s'') := evalEach s' es
    (answer :: answers, s'')

end Session

end Sexpr
