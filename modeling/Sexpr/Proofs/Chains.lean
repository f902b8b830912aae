import Sexpr.Builtin.Arithmetic

/-! Chains of steps on machine values, followed by the same steps on exact ones. A chain goes on as
long as its exact step is not refused, and the machine value stands for the exact one all the way; the
first refused step decides how the chain fails. This is proved once for all chains and then of integer
arithmetic, where the exact values are all integers. Main statement: integer arithmetic is exact or
refused, and the kinds of the arguments are looked at before any number. -/
namespace Sexpr

/-- A step as it is without limits, and the error that it is refused with where it is. -/
structure ExactStep (α γ : Type) where
  result : γ → α → γ
  refusal? : γ → α → Option EvalError

namespace ExactStep

variable {α β γ : Type} (x : ExactStep α γ)

def after (c : γ) (as : List α) (i : Nat) : γ :=
  (as.take i).foldl x.result c

def Passes (c : γ) (as : List α) (i : Nat) : Prop :=
  ∀ j a, j < i → as[j]? = some a → x.refusal? (x.after c as j) a = none

variable {x} {c : γ} {as : List α} {i : Nat}

instance [DecidableEq γ] : Decidable (x.Passes c as i) :=
  decidable_of_iff (∀ j, j < i → ∀ a ∈ as[j]?, x.refusal? (x.after c as j) a = none)
    ⟨fun h j a hj ha => h j hj a ha, fun h j hj a ha => h j a hj ha⟩

theorem passes_cons_succ_iff {a : α} :
    x.Passes c (a :: as) (i + 1) ↔ x.refusal? c a = none ∧ x.Passes (x.result c a) as i := by
  constructor
  · intro h
    refine ⟨h 0 a (by omega) rfl, ?_⟩
    intro j b hj hb
    exact h (j + 1) b (by omega) hb
  · rintro ⟨ha, has⟩ j b hj hb
    cases j with
    | zero =>
      cases hb
      exact ha
    | succ j => exact has j b (by omega) hb

/-- The machine step follows the exact one: from a value that stands for an exact one it comes to a
value that stands for the exact result, and it fails where that step is refused. -/
structure Follows (x : ExactStep α γ) (Stands : β → γ → Prop)
    (step : β → α → Except EvalError β) : Prop where
  answers : ∀ {b c a}, Stands b c → x.refusal? c a = none →
    ∃ b', step b a = .ok b' ∧ Stands b' (x.result c a)
  fails : ∀ {b c a e}, Stands b c → x.refusal? c a = some e → step b a = .error e

namespace Follows

variable {Stands : β → γ → Prop} {step : β → α → Except EvalError β}

/-- A chain of which no step is refused comes to its exact value. -/
theorem foldlM_of_passes (h : x.Follows Stands step) {b : β} (hb : Stands b c)
    (hpasses : x.Passes c as as.length) :
    ∃ b', as.foldlM step b = .ok b' ∧ Stands b' (x.after c as as.length) := by
  induction as generalizing b c with
  | nil => exact ⟨b, rfl, hb⟩
  | cons a as ih =>
    obtain ⟨ha, has⟩ := passes_cons_succ_iff.mp hpasses
    obtain ⟨b₁, hstep, hb₁⟩ := h.answers hb ha
    obtain ⟨b', hfold, hb'⟩ := ih hb₁ has
    refine ⟨b', ?_, hb'⟩
    rw [List.foldlM_cons, hstep]
    exact hfold

/-- The first refused step decides the error, whatever is behind it. -/
theorem foldlM_of_refusal (h : x.Follows Stands step) {b : β} (hb : Stands b c)
    (hpasses : x.Passes c as i) {a : α} (ha : as[i]? = some a) {e : EvalError}
    (he : x.refusal? (x.after c as i) a = some e) : as.foldlM step b = .error e := by
  induction as generalizing b c i with
  | nil => cases ha
  | cons d as ih =>
    cases i with
    | zero =>
      cases ha
      rw [List.foldlM_cons, h.fails hb he]
      rfl
    | succ i =>
      obtain ⟨hd, has⟩ := passes_cons_succ_iff.mp hpasses
      obtain ⟨b₁, hstep, hb₁⟩ := h.answers hb hd
      rw [List.foldlM_cons, hstep]
      exact ih hb₁ has ha he

end Follows

end ExactStep

namespace Arithmetic

def boundedStep (op : Arithmetic) (step : Int → Int → Int) : ExactStep Int64 Int where
  result r n := step r n.toInt
  refusal? r n :=
    if -0x8000000000000000 ≤ step r n.toInt ∧ step r n.toInt ≤ 0x7FFFFFFFFFFFFFFF then none
    else some (.overflow (.arithmetic op))

/-- Arithmetic as integers have it, with quotients truncated toward zero. A quotient by zero is
refused before any result. -/
def exactStep : Arithmetic → ExactStep Int64 Int
  | add => boundedStep .add fun r n => r + n
  | sub => boundedStep .sub fun r n => r - n
  | mul => boundedStep .mul fun r n => r * n
  | div =>
    { boundedStep .div fun r n => Int.tdiv r n with
      refusal? := fun r n =>
        if n = 0 then some (.divisionByZero (.arithmetic .div))
        else (boundedStep .div fun r n => Int.tdiv r n).refusal? r n }

theorem fits64_iff {n : Int} :
    Fits64 n ↔ -0x8000000000000000 ≤ n ∧ n ≤ 0x7FFFFFFFFFFFFFFF := by
  have hmin : Int64.minValue.toInt = -0x8000000000000000 := by decide
  have hmax : Int64.maxValue.toInt = 0x7FFFFFFFFFFFFFFF := by decide
  rw [Fits64, hmin, hmax]

theorem result_exactStep (op : Arithmetic) (r : Int) (n : Int64) :
    op.exactStep.result r n = op.exact r n.toInt := by
  cases op <;> rfl

/-- The evaluator looks at a divisor first, and then whether the result fits. -/
theorem refusal?_exactStep (op : Arithmetic) (r : Int) (n : Int64) :
    op.exactStep.refusal? r n =
      if op = div ∧ n = 0 then some (.divisionByZero op.builtin)
      else if Fits64 (op.exact r n.toInt) then none
      else some (.overflow op.builtin) := by
  cases op <;> simp [exactStep, boundedStep, exact, builtin, fits64_iff]

/-- A step of the evaluator has the exact result, or the error that the exact step is refused with. -/
theorem follows_ints (op : Arithmetic) :
    op.exactStep.Follows (fun (n : Int64) r => n.toInt = r) op.ints where
  answers := by
    rintro b _ n rfl h
    rw [refusal?_exactStep] at h
    rw [result_exactStep]
    split at h
    · cases h
    · rename_i hdivisor
      split at h
      · rename_i hfits
        have hresult := toInt_ofInt_of_fits64 hfits
        exact ⟨_, ints_eq_ok_iff.mpr ⟨hdivisor, hresult⟩, hresult⟩
      · cases h
  fails := by
    rintro b _ n e rfl h
    rw [refusal?_exactStep] at h
    unfold ints
    split at h
    · rename_i hdivisor
      cases h
      rw [if_pos hdivisor]
    · rename_i hdivisor
      split at h
      · cases h
      · rename_i hfits
        cases h
        rw [if_neg hdivisor, int64?_eq_none_iff.mpr hfits]

variable {hasRoom : Nat → Bool}

/-- Behind a number, all arguments are read as numbers before any is used. -/
theorem apply_int_cons (op : Arithmetic) (a : Int64) {args : List Value} (hargs : args ≠ []) :
    op.apply hasRoom (.int a :: args) =
      op.builtin.expectInts 1 args >>= fun ns => .int <$> ns.foldlM op.ints a := by
  obtain ⟨v, args, rfl⟩ := List.exists_cons_of_ne_nil hargs
  simp only [apply, bind_pure_comp]

theorem apply_map_int (op : Arithmetic) (hasRoom : Nat → Bool) (a : Int64) {ns : List Int64}
    (hns : ns ≠ []) : op.apply hasRoom (.int a :: ns.map .int) = .int <$> ns.foldlM op.ints a := by
  rw [apply_int_cons op a (by simpa using hns), Builtin.expectInts_map_int]
  rfl

/-- Numbers may as well be taken two at a time. -/
theorem foldlM_apply_pair (op : Arithmetic) (ns : List Int64) (a : Int64) :
    ns.foldlM (fun v n => op.apply hasRoom [v, .int n]) (.int a) = .int <$> ns.foldlM op.ints a := by
  induction ns generalizing a with
  | nil => rfl
  | cons n ns ih =>
    have hpair : op.apply hasRoom [.int a, .int n] = .int <$> op.ints a n := by
      have h := op.apply_map_int hasRoom a (List.cons_ne_nil n [])
      simpa using h
    rw [List.foldlM_cons, List.foldlM_cons, hpair]
    cases op.ints a n with
    | error e => rfl
    | ok m => exact ih m

/-- The numbers in front of an argument of another kind, and those behind it, do not matter. -/
theorem apply_of_other_kind {op : Arithmetic} {a : Int64} {args : List Value} {i : Nat} {v : Value}
    (hi : args[i]? = some v) (hv : ∀ n, v ≠ .int n)
    (hbefore : ∀ j w, j < i → args[j]? = some w → ∃ n, w = .int n) :
    op.apply hasRoom (.int a :: args) = .error (.typeMismatch op.builtin (i + 1) .int v.kind) := by
  have hnone : v.int? = none := by
    cases v with
    | int n => exact absurd rfl (hv n)
    | _ => rfl
  have hints : op.builtin.expectInts 1 args =
      .error (.typeMismatch op.builtin (1 + i) .int v.kind) := by
    apply Builtin.expectAll_eq_error hi hnone
    intro j w hj hw hnone
    obtain ⟨n, rfl⟩ := hbefore j w hj hw
    cases hnone
  have hargs : args ≠ [] := by
    rintro rfl
    cases hi
  rw [apply_int_cons op a hargs, hints, Nat.add_comm]
  rfl

end Arithmetic

/-- Integer arithmetic is exact or refused. Where an argument is of another kind, the first such one
is reported, whatever the numbers are. Numbers alone give the exact result of the chain if no step of
it is refused, and otherwise the error of the first step that is; and the chain is the same as taking
two at a time, errors included. -/
theorem integer_chain_is_exact_or_refused (hasRoom : Nat → Bool) (op : Arithmetic) (a : Int64)
    {args : List Value} (hargs : args ≠ []) :
    (∀ i v, (Value.int a :: args)[i]? = some v → (∀ n, v ≠ .int n) →
        (∀ j w, j < i → (Value.int a :: args)[j]? = some w → ∃ n, w = .int n) →
          op.apply hasRoom (.int a :: args) =
            .error (.typeMismatch (.arithmetic op) i .int v.kind)) ∧
      ∀ ns : List Int64, args = ns.map .int →
        (op.exactStep.Passes a.toInt ns ns.length →
          ∃ m : Int64, op.apply hasRoom (.int a :: args) = .ok (.int m) ∧
            m.toInt = op.exactStep.after a.toInt ns ns.length) ∧
        (∀ i n e, op.exactStep.Passes a.toInt ns i → ns[i]? = some n →
          op.exactStep.refusal? (op.exactStep.after a.toInt ns i) n = some e →
            op.apply hasRoom (.int a :: args) = .error e) ∧
        op.apply hasRoom (.int a :: args) =
          ns.foldlM (fun v n => op.apply hasRoom [v, .int n]) (.int a) := by
  refine ⟨?_, ?_⟩
  · intro i v hi hv hbefore
    cases i with
    | zero =>
      cases hi
      exact absurd rfl (hv a)
    | succ i =>
      have hi' : args[i]? = some v := hi
      apply Arithmetic.apply_of_other_kind hi' hv
      intro j w hj hw
      exact hbefore (j + 1) w (by omega) hw
  · rintro ns rfl
    have hns : ns ≠ [] := by simpa using hargs
    rw [op.apply_map_int hasRoom a hns]
    refine ⟨?_, ?_, (op.foldlM_apply_pair ns a).symm⟩
    · intro hpasses
      obtain ⟨m, hfold, hm⟩ := op.follows_ints.foldlM_of_passes rfl hpasses
      exact ⟨m, by rw [hfold]; rfl, hm⟩
    · intro i n e hpasses hn he
      rw [op.follows_ints.foldlM_of_refusal rfl hpasses hn he]
      rfl

/-- In each operation a chain that is exact and one that is not: sums and products of which only a part
does not fit, a quotient that does not fit in front of a zero, and a quotient by zero. A string at the
end is reported although the quotient in front of it fails. -/
theorem chains_of_each_operation :
    let hasRoom := fun _ => true
    Arithmetic.add.apply hasRoom [.int 5, .int 7, .int (-20)] = .ok (.int (-8)) ∧
      Arithmetic.add.apply hasRoom [.int Int64.maxValue, .int 1, .int (-1)] =
        .error (.overflow (.arithmetic .add)) ∧
      Arithmetic.sub.apply hasRoom [.int 5, .int 7, .int 1] = .ok (.int (-3)) ∧
      Arithmetic.sub.apply hasRoom [.int Int64.minValue, .int 1, .int (-1)] =
        .error (.overflow (.arithmetic .sub)) ∧
      Arithmetic.mul.apply hasRoom [.int 3, .int (-4), .int 5] = .ok (.int (-60)) ∧
      Arithmetic.mul.apply hasRoom [.int Int64.minValue, .int (-1), .int 0] =
        .error (.overflow (.arithmetic .mul)) ∧
      Arithmetic.div.apply hasRoom [.int (-7), .int 2] = .ok (.int (-3)) ∧
      Arithmetic.div.apply hasRoom [.int Int64.minValue, .int 1, .int (-1), .int 0] =
        .error (.overflow (.arithmetic .div)) ∧
      Arithmetic.div.apply hasRoom [.int 5, .int 0, .int 2] =
        .error (.divisionByZero (.arithmetic .div)) ∧
      Arithmetic.div.apply hasRoom [.int Int64.minValue, .int (-1), .string ['x']] =
        .error (.typeMismatch (.arithmetic .div) 2 .int .string) := by
  intro hasRoom
  have hchain (op : Arithmetic) (a n : Int64) (ns : List Int64) :=
    (integer_chain_is_exact_or_refused hasRoom op a
      (List.cons_ne_nil (.int n) (ns.map .int))).2 (n :: ns) rfl
  have hanswer (op : Arithmetic) (a n : Int64) (ns : List Int64) (m : Int64)
      (hpasses : op.exactStep.Passes a.toInt (n :: ns) (n :: ns).length)
      (hm : m.toInt = op.exactStep.after a.toInt (n :: ns) (n :: ns).length) :
      op.apply hasRoom (.int a :: .int n :: ns.map .int) = .ok (.int m) := by
    obtain ⟨m', happly, hm'⟩ := (hchain op a n ns).1 hpasses
    rw [happly, Int64.toInt_inj.mp (hm'.trans hm.symm)]
  refine ⟨hanswer .add 5 7 [-20] (-8) (by decide) (by decide),
    (hchain .add Int64.maxValue 1 [-1]).2.1 0 1 _ (by decide) rfl (by decide),
    hanswer .sub 5 7 [1] (-3) (by decide) (by decide),
    (hchain .sub Int64.minValue 1 [-1]).2.1 0 1 _ (by decide) rfl (by decide),
    hanswer .mul 3 (-4) [5] (-60) (by decide) (by decide),
    (hchain .mul Int64.minValue (-1) [0]).2.1 0 (-1) _ (by decide) rfl (by decide),
    hanswer .div (-7) 2 [] (-3) (by decide) (by decide),
    (hchain .div Int64.minValue 1 [-1, 0]).2.1 1 (-1) _ (by decide) rfl (by decide),
    (hchain .div 5 0 [2]).2.1 0 0 _ (by decide) rfl (by decide), ?_⟩
  apply (integer_chain_is_exact_or_refused hasRoom .div Int64.minValue
    (List.cons_ne_nil (.int (-1)) [.string ['x']])).1 2 (.string ['x']) rfl (fun n => nofun)
  intro j w hj hw
  match j, hj with
  | 0, _ => exact ⟨_, (Option.some.inj hw).symm⟩
  | 1, _ => exact ⟨_, (Option.some.inj hw).symm⟩

end Sexpr
