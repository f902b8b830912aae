import Sexpr.Builtin
import Sexpr.Value

/-!
Why a program stops.
-/

namespace Sexpr

inductive EvalError
  | undefinedFunction (name : Text)
  | arity (function : Builtin) (minimum given : Nat)
  | typeMismatch (function : Builtin) (position : Nat) (expected given : Value.Kind)
  | unsupportedType (function : Builtin) (kind : Value.Kind)
  | vectorElementMismatch (position : Nat) (expected found : Value.Kind)
  | divisionByZero (function : Builtin)
  | overflow (function : Builtin)
  | allocation (length : Nat)
  | negativeRepeat (count : Int64)
  /-- A form was used for its value but has none; `form` is its source form. -/
  | noValue (form : Text)
  | output
  | redefinition (name : Text)
  | undefined (name : Text)
deriving DecidableEq

end Sexpr
