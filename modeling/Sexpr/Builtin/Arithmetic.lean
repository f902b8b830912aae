import Sexpr.Builtin.Arguments
import Sexpr.Builtin.Repetition

/-!
Sums, differences, products and quotients of numbers of one kind, taken from left to right. The
first argument decides the kind. An integer result is the exact one or is refused. Main statement:
an integer step succeeds exactly if its divisor is not zero and the exact result fits.
-/

namespace Sexpr.Arithmetic

def builtin (op : Arithmetic) : Builtin :=
  .arithmetic op

/-- The result among all integers; a quotient is truncated toward zero. -/
def exact : Arithmetic → Int → Int → Int
  | add, a, b => a + b
  | sub, a, b => a - b
  | mul, a, b => a * b
  | div, a, b => a.tdiv b

def ints (op : Arithmetic) (a b : Int64) : Except EvalError Int64 :=
  if op = div ∧ b = 0 then .error (.divisionByZero op.builtin)
  else
    match int64? (op.exact a.toInt b.toInt) with
    | some n => .ok n
    | none => .error (.overflow op.builtin)

def floats (op : Arithmetic) (x y : Float) : Except EvalError Float :=
  match op with
  | add => .ok (x + y)
  | sub => .ok (x - y)
  | mul => .ok (x * y)
  | div => if y == 0.0 then .error (.divisionByZero op.builtin) else .ok (x / y)

/-- Applies the operation to two arguments or more. A product may begin with a string, which is
repeated as far as there is room. -/
def apply (op : Arithmetic) (hasRoom : Nat → Bool) (args : List Value) : Except EvalError Value :=
  match args with
  | first :: second :: rest =>
    match op, first with
    | _, .int a => do
      let ns ← op.builtin.expectInts 1 (second :: rest)
      return .int (← ns.foldlM op.ints a)
    | _, .float x => do
      let xs ← op.builtin.expectFloats 1 (second :: rest)
      return .float (← xs.foldlM op.floats x)
    | mul, .string t => do
      let counts ← op.builtin.expectInts 1 (second :: rest)
      return .string (← t.repeatAll? hasRoom counts)
    | _, v => .error (.unsupportedType op.builtin v.kind)
  | args => .error (.arity op.builtin 2 args.length)

/-- A step on integers succeeds exactly if it does not divide by zero and its exact result fits. -/
theorem ints_eq_ok_iff {op : Arithmetic} {a b n : Int64} :
    op.ints a b = .ok n ↔ ¬(op = div ∧ b = 0) ∧ n.toInt = op.exact a.toInt b.toInt := by
  unfold ints
  split
  · simp_all
  · cases h : int64? (op.exact a.toInt b.toInt) with
    | none =>
      rw [int64?_eq_none_iff] at h
      simp only [reduceCtorEq, false_iff, not_and]
      intro _ hn
      exact h (hn ▸ fits64_toInt n)
    | some m =>
      rw [int64?_eq_some_iff] at h
      simp only [Except.ok.injEq]
      constructor
      · rintro rfl
        exact ⟨by assumption, h⟩
      · rintro ⟨_, hn⟩
        exact Int64.toInt_inj.1 (h.trans hn.symm)

end Sexpr.Arithmetic
