import Sexpr.EvalError

/-!
Arguments of a function that wants values of one kind. All of them are looked at before any is used,
and the first that is of another kind is reported, by its position in the whole argument list.
-/

namespace Sexpr.Builtin

/-- What all arguments hold; `start` is the position of the first. -/
def expectAll {α : Type} (f : Builtin) (expected : Value.Kind) (get : Value → Option α) :
    Nat → List Value → Except EvalError (List α)
  | _, [] => .ok []
  | start, v :: vs =>
    match get v with
    | none => .error (.typeMismatch f start expected v.kind)
    | some a => (a :: ·) <$> expectAll f expected get (start + 1) vs

def expectInts (f : Builtin) : Nat → List Value → Except EvalError (List Int64) :=
  expectAll f .int Value.int?

def expectFloats (f : Builtin) : Nat → List Value → Except EvalError (List Float) :=
  expectAll f .float Value.float?

/-- The first argument without the wanted contents is reported, whatever is behind it. -/
theorem expectAll_eq_error {α : Type} {f : Builtin} {expected : Value.Kind} {get : Value → Option α}
    {vs : List Value} {i : Nat} {v : Value} (hi : vs[i]? = some v) (hv : get v = none)
    (hbefore : ∀ j w, j < i → vs[j]? = some w → get w ≠ none) (start : Nat) :
    f.expectAll expected get start vs = .error (.typeMismatch f (start + i) expected v.kind) := by
  induction vs generalizing i start with
  | nil => cases hi
  | cons u vs ih =>
    cases i with
    | zero =>
      cases hi
      simp only [expectAll, hv, Nat.add_zero]
    | succ i =>
      obtain ⟨a, ha⟩ : ∃ a, get u = some a :=
        Option.ne_none_iff_exists'.mp (hbefore 0 u (Nat.succ_pos i) rfl)
      have htail := ih hi (fun j w hj => hbefore (j + 1) w (Nat.succ_lt_succ hj)) (start + 1)
      rw [expectAll, ha, htail, Nat.add_right_comm]
      rfl

/-- Arguments that are made of wanted contents hold just these. -/
theorem expectAll_map {α : Type} {f : Builtin} {expected : Value.Kind} {get : Value → Option α}
    (make : α → Value) (hget : ∀ a, get (make a) = some a) (start : Nat) (as : List α) :
    f.expectAll expected get start (as.map make) = .ok as := by
  induction as generalizing start with
  | nil => rfl
  | cons a as ih =>
    simp only [List.map_cons, expectAll, hget, ih]
    rfl

theorem expectInts_map_int (f : Builtin) (start : Nat) (ns : List Int64) :
    f.expectInts start (ns.map Value.int) = .ok ns :=
  expectAll_map .int (fun _ => rfl) start ns

end Sexpr.Builtin
