import Sexpr.Builtin.Arguments

/-!
Comparisons of numbers of one kind. A relation holds of a list of arguments if it holds of all
neighbours; a NaN is in no relation to any float.
-/

namespace Sexpr.Comparison

def builtin (rel : Comparison) : Builtin :=
  .comparison rel

def ints : Comparison → Int64 → Int64 → Bool
  | equal, a, b => a == b
  | less, a, b => a < b
  | greater, a, b => b < a

def floats : Comparison → Float → Float → Bool
  | equal, x, y => x == y
  | less, x, y => x < y
  | greater, x, y => y < x

def chain {α : Type} (rel : α → α → Bool) : List α → Bool
  | a :: b :: rest => rel a b && chain rel (b :: rest)
  | _ => true

def apply (rel : Comparison) (args : List Value) : Except EvalError Value :=
  match args with
  | first :: _ :: _ =>
    match first with
    | .int _ => do
      return .bool (chain rel.ints (← rel.builtin.expectInts 0 args))
    | .float _ => do
      return .bool (chain rel.floats (← rel.builtin.expectFloats 0 args))
    | v => .error (.unsupportedType rel.builtin v.kind)
  | _ => .error (.arity rel.builtin 2 args.length)

end Sexpr.Comparison
