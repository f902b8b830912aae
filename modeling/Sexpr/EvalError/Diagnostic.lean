import Sexpr.Diagnostic
import Sexpr.EvalError

/-!
The wording of the errors that stop a program. They point at no place of the source.
-/

namespace Sexpr.EvalError

def functionName (f : Builtin) : String :=
  String.ofList f.name

def message : EvalError → String
  | undefinedFunction name => s!"function `{String.ofList name}` is not defined"
  | arity f minimum given => s!"{functionName f} expects at least {minimum} args, {given} given"
  | typeMismatch f position expected given =>
    s!"{functionName f} expects positional argument #{position} to be of type {expected.name}, " ++
      s!"{given.name} given"
  | unsupportedType f kind => s!"{functionName f} is not defined for type {kind.name}"
  | vectorElementMismatch position expected found =>
    s!"vector element #{position} is of type {found.name}, but the vector holds {expected.name}"
  | divisionByZero f => s!"division by zero in `{functionName f}`"
  | overflow f => s!"integer overflow in `{functionName f}`"
  | allocation length => s!"cannot allocate a string of {length} bytes"
  | negativeRepeat count => s!"cannot repeat a string {String.ofList (Text.ofInt count.toInt)} times"
  | noValue form => s!"`{String.ofList form}` does not produce a value"
  | output => "failed to write output"
  | redefinition name => s!"redefinition of variable `{String.ofList name}`"
  | undefined name => s!"undefined variable `{String.ofList name}`"

def code : EvalError → String
  | undefinedFunction _ => "eval::undefined_function"
  | arity .. => "eval::arity"
  | typeMismatch .. => "eval::type_mismatch"
  | unsupportedType .. => "eval::unsupported_type"
  | vectorElementMismatch .. => "eval::vector_element"
  | divisionByZero _ => "eval::division_by_zero"
  | overflow _ => "eval::overflow"
  | allocation _ => "eval::allocation"
  | negativeRepeat _ => "eval::negative_repeat"
  | noValue _ => "eval::no_value"
  | output => "eval::output"
  | redefinition _ => "context::redefinition"
  | undefined _ => "context::undefined"

def help : EvalError → Option String
  | vectorElementMismatch .. => some "use a quoted list `'(...)` to mix element types"
  | noValue _ => some "`print` and `defvar` cannot be used as values"
  | redefinition _ => some "variables are bound once per session, pick another name"
  | undefined name => some s!"bind it first with `(defvar {String.ofList name} ...)`"
  | _ => none

def diagnostic (e : EvalError) : Diagnostic where
  message := e.message
  code := some e.code
  help := e.help

end Sexpr.EvalError
