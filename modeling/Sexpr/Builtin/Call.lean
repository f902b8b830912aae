import Sexpr.Builtin.Arithmetic
import Sexpr.Builtin.Comparison
import Sexpr.Session

/-!
Calls of the functions of the language. All but one answer without looking at the session; printing
writes a line and answers nothing.
-/

namespace Sexpr.Builtin

/-- Puts values behind the elements of a list, none of them taken apart. -/
def appendTo (args : List Value) : Except EvalError Value :=
  match args with
  | first :: second :: rest =>
    match first with
    | .list elements => .ok (.list (elements ++ second :: rest))
    | v => .error (.typeMismatch .append 0 .list v.kind)
  | args => .error (.arity .append 2 args.length)

def printed (args : List Value) : Text :=
  List.intercalate [' '] (args.map Value.text)

def call (f : Builtin) (hasRoom : Nat → Bool) (args : List Value) : Action (Option Value) :=
  match f with
  | arithmetic op => some <$> Action.ofExcept (op.apply hasRoom args)
  | comparison rel => some <$> Action.ofExcept (rel.apply args)
  | append => some <$> Action.ofExcept (appendTo args)
  | print => do
    Action.writeLine (printed args)
    return none

end Sexpr.Builtin
