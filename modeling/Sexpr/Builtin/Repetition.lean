import Sexpr.EvalError
import Sexpr.Integer

/-!
Repeated strings. A string is repeated by each count in turn. A negative count is refused, then a
length that no string can have, then one that there is no room for; an empty result needs no room,
whatever the count. How much room there is does not matter to the rest. Main statement: what is not
refused is the text that many times.
-/

namespace Sexpr

namespace Text

def times (t : Text) (n : Nat) : Text :=
  (List.replicate n t).flatten

theorem byteLength_times (t : Text) (n : Nat) : byteLength (t.times n) = byteLength t * n := by
  induction n with
  | zero => rfl
  | succ n ih =>
    simp only [times, List.replicate_succ, List.flatten_cons, byteLength_append] at ih ⊢
    rw [ih, Nat.mul_succ, Nat.add_comm]

/-- `hasRoom` tells which lengths in bytes there is room for. -/
def repeat? (hasRoom : Nat → Bool) (t : Text) (count : Int64) : Except EvalError Text :=
  if count < 0 then .error (.negativeRepeat count)
  else
    let n := count.toInt.toNat
    let length := byteLength t * n
    if length = 0 then .ok []
    else if 0x8000000000000000 ≤ length then .error (.overflow (.arithmetic .mul))
    else if hasRoom length then .ok (t.times n)
    else .error (.allocation length)

/-- What a repetition answers is the text written as many times as the count says. -/
theorem eq_times_of_repeat? {hasRoom : Nat → Bool} {t u : Text} {count : Int64}
    (h : t.repeat? hasRoom count = .ok u) : u = t.times count.toInt.toNat := by
  unfold repeat? at h
  split at h
  · cases h
  dsimp only at h
  split at h
  · rename_i hlength
    cases h
    rw [← byteLength_times] at hlength
    cases htimes : t.times count.toInt.toNat with
    | nil => rfl
    | cons c r =>
      rw [htimes] at hlength
      exact absurd hlength (Nat.ne_of_gt (byteLength_pos (List.cons_ne_nil c r)))
  · split at h
    · cases h
    · split at h <;> cases h
      rfl

def repeatAll? (hasRoom : Nat → Bool) (t : Text) (counts : List Int64) : Except EvalError Text :=
  counts.foldlM (repeat? hasRoom) t

end Text

end Sexpr
