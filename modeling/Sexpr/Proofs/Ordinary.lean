import Sexpr.Eval

/-! Errors of computing with values. Functions and collections are given values only, so none of
their errors tells of a form, a name or the stream; those arise in evaluation itself. -/
namespace Sexpr

/-- The error tells of values only. -/
def EvalError.isOrdinary : EvalError → Bool
  | undefinedFunction _ | noValue _ | output | redefinition _ | undefined _ => false
  | _ => true

def Ordinary {α : Type} (r : Except EvalError α) : Prop :=
  ∀ e, r = .error e → e.isOrdinary = true

namespace Ordinary

variable {α β : Type}

theorem ok (a : α) : Ordinary (.ok a) :=
  fun _ h => nomatch h

theorem error {e : EvalError} (h : e.isOrdinary = true) : Ordinary (.error e : Except _ α) :=
  fun _ heq => Except.error.inj heq ▸ h

theorem isOrdinary {e : EvalError} (h : Ordinary (.error e : Except _ α)) : e.isOrdinary = true :=
  h e rfl

theorem bind {r : Except EvalError α} {f : α → Except EvalError β} (hr : Ordinary r)
    (hf : ∀ a, Ordinary (f a)) : Ordinary (r >>= f) := by
  cases r with
  | ok a => exact hf a
  | error e => exact error hr.isOrdinary

theorem map {r : Except EvalError α} (hr : Ordinary r) (f : α → β) : Ordinary (f <$> r) := by
  cases r with
  | ok a => exact ok (f a)
  | error e => exact error hr.isOrdinary

theorem foldlM {f : β → α → Except EvalError β} (hf : ∀ b a, Ordinary (f b a)) (b : β)
    (as : List α) : Ordinary (as.foldlM f b) := by
  induction as generalizing b with
  | nil => exact ok b
  | cons a as ih =>
    rw [List.foldlM_cons]
    exact (hf b a).bind ih

end Ordinary

namespace Builtin

open Ordinary

theorem ordinary_expectAll {α : Type} (f : Builtin) (expected : Value.Kind)
    (get : Value → Option α) (start : Nat) (vs : List Value) :
    Ordinary (f.expectAll expected get start vs) := by
  induction vs generalizing start with
  | nil => exact ok []
  | cons v vs ih =>
    rw [expectAll]
    cases get v with
    | none => exact error rfl
    | some a => exact (ih (start + 1)).map _

theorem ordinary_ints (op : Arithmetic) (a b : Int64) : Ordinary (op.ints a b) := by
  unfold Arithmetic.ints
  split
  · exact error rfl
  · split
    · exact ok _
    · exact error rfl

theorem ordinary_floats (op : Arithmetic) (x y : Float) : Ordinary (op.floats x y) := by
  unfold Arithmetic.floats
  split
  · exact ok _
  · exact ok _
  · exact ok _
  · split
    · exact error rfl
    · exact ok _

theorem ordinary_repeat? (hasRoom : Nat → Bool) (t : Text) (count : Int64) :
    Ordinary (t.repeat? hasRoom count) := by
  unfold Text.repeat?
  split
  · exact error rfl
  · dsimp only
    split
    · exact ok _
    · split
      · exact error rfl
      · split
        · exact ok _
        · exact error rfl

/-- Arithmetic fails over its arguments and over nothing else. -/
theorem ordinary_arithmetic (hasRoom : Nat → Bool) (op : Arithmetic) (args : List Value) :
    Ordinary (op.apply hasRoom args) := by
  unfold Arithmetic.apply
  split
  · split
    · refine (ordinary_expectAll _ _ _ _ _).bind fun ns => ?_
      exact (foldlM (ordinary_ints op) _ ns).bind fun _ => ok _
    · refine (ordinary_expectAll _ _ _ _ _).bind fun xs => ?_
      exact (foldlM (ordinary_floats op) _ xs).bind fun _ => ok _
    · refine (ordinary_expectAll _ _ _ _ _).bind fun counts => ?_
      exact (foldlM (ordinary_repeat? hasRoom) _ counts).bind fun _ => ok _
    · exact error rfl
  · exact error rfl

theorem ordinary_comparison (rel : Comparison) (args : List Value) :
    Ordinary (rel.apply args) := by
  unfold Comparison.apply
  split
  · split
    · exact (ordinary_expectAll _ _ _ _ _).bind fun _ => ok _
    · exact (ordinary_expectAll _ _ _ _ _).bind fun _ => ok _
    · exact error rfl
  · exact error rfl

theorem ordinary_appendTo (args : List Value) : Ordinary (appendTo args) := by
  unfold appendTo
  split
  · split
    · exact ok _
    · exact error rfl
  · exact error rfl

/-- A function computes from its arguments, or it is the one that prints them. -/
theorem call_cases (hasRoom : Nat → Bool) (f : Builtin) (args : List Value) :
    (∃ r, Ordinary r ∧ f.call hasRoom args = some <$> Action.ofExcept r) ∨
      f.call hasRoom args = Action.writeLine (printed args) >>= fun _ => pure none := by
  cases f with
  | arithmetic op => exact .inl ⟨_, ordinary_arithmetic hasRoom op args, rfl⟩
  | comparison rel => exact .inl ⟨_, ordinary_comparison rel args, rfl⟩
  | append => exact .inl ⟨_, ordinary_appendTo args, rfl⟩
  | print => exact .inr rfl

end Builtin

theorem ordinary_uniform (vs : List Value) : Ordinary (uniform vs) := by
  unfold uniform
  split
  · exact .ok _
  · split
    · exact .ok _
    · exact .error rfl

end Sexpr
