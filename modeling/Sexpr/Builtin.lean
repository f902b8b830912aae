import Sexpr.Text

/-!
The functions of the language and their names.
-/

namespace Sexpr

inductive Arithmetic
  | add
  | sub
  | mul
  | div
deriving DecidableEq

inductive Comparison
  | equal
  | less
  | greater
deriving DecidableEq

inductive Builtin
  | arithmetic (op : Arithmetic)
  | comparison (rel : Comparison)
  | append
  | print
deriving DecidableEq

namespace Builtin

def name : Builtin → Text
  | arithmetic .add => ['+']
  | arithmetic .sub => ['-']
  | arithmetic .mul => ['*']
  | arithmetic .div => ['/']
  | comparison .equal => ['=']
  | comparison .less => ['<']
  | comparison .greater => ['>']
  | append => ['a', 'p', 'p', 'e', 'n', 'd']
  | print => ['p', 'r', 'i', 'n', 't']

def all : List Builtin :=
  [arithmetic .mul, arithmetic .add, arithmetic .sub, arithmetic .div, comparison .less,
    comparison .equal, comparison .greater, append, print]

def names : List Text :=
  all.map name

def ofName? (name : Text) : Option Builtin :=
  all.find? fun f => f.name == name

theorem ofName?_name (f : Builtin) : ofName? f.name = some f := by
  rcases f with (_ | _ | _ | _) | (_ | _ | _) | _ | _ <;> rfl

/-- A function goes by its own name and no other. -/
theorem ofName?_eq_some_iff {name : Text} {f : Builtin} : ofName? name = some f ↔ f.name = name := by
  constructor
  · intro h
    simpa using List.find?_some h
  · rintro rfl
    exact ofName?_name f

end Builtin

end Sexpr
