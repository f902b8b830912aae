import Sexpr.Proofs.Nodes
import Sexpr.Proofs.Ordinary

/-! Positions that want a value, on any stream. A value was computed without touching the session, and
it is computed again wherever the same variables are bound, whatever else is; a computation that stops
because a name is bound has not touched the session either. Both are kept by sequencing, so that each
form owes only its own step. -/
namespace Sexpr

namespace Env

def Le (env env' : Env) : Prop :=
  ∀ name b, env.find? name = some b → env'.find? name = some b

theorem Le.refl (env : Env) : env.Le env :=
  fun _ _ h => h

theorem Le.trans {env₁ env₂ env₃ : Env} (h : env₁.Le env₂) (h' : env₂.Le env₃) : env₁.Le env₃ :=
  fun name b hb => h' name b (h name b hb)

theorem le_define {env env' : Env} {b : Binding} (h : env.define? b = some env') :
    env.Le env' := by
  intro name c hc
  have hfresh := (define?_eq_some_iff.mp h).1
  rw [find?_define h]
  split
  · rename_i hname
    rw [hname, ← find?_eq_none_iff, hc] at hfresh
    cases hfresh
  · exact hc

theorem Le.get? {env env' : Env} (h : env.Le env') {name : Text} {v : Value}
    (hv : env.get? name = some v) : env'.get? name = some v := by
  obtain ⟨b, hb, rfl⟩ := Option.map_eq_some_iff.mp hv
  exact Option.map_eq_some_iff.mpr ⟨b, h name b hb, rfl⟩

end Env

namespace Action

variable {α β : Type}

/-- An answer is given again where at least the same variables are bound, and nothing is changed for
it; where a bound name stops the action, nothing was changed either. -/
structure Steady (x : Action α) : Prop where
  answers : ∀ {s s' : Session} {a : α}, x.run s = (.ok a, s') →
    ∀ env out, s.env.Le env → x.run ⟨env, out⟩ = (.ok a, ⟨env, out⟩)
  stops : ∀ {s s' : Session} {name : Text}, x.run s = (.error (.redefinition name), s') →
    s' = s ∧ name ∈ s.env.names

namespace Steady

/-- An answer is computed without a trace. -/
theorem unchanged {x : Action α} (hx : x.Steady) {s s' : Session} {a : α}
    (h : x.run s = (.ok a, s')) : s' = s := by
  have hsame := hx.answers h s.env s.out (Env.Le.refl s.env)
  exact (Prod.mk.inj (h.symm.trans hsame)).2

theorem ofExcept {r : Except EvalError α} (hr : Ordinary r) : (ofExcept r).Steady where
  answers := by
    intro s s' a h env out _
    cases h
    rfl
  stops := by
    intro s s' name h
    cases h
    cases hr.isOrdinary

theorem pure (a : α) : (Pure.pure a : Action α).Steady :=
  ofExcept (.ok a)

/-- Two actions that leave the session alone do so together. -/
theorem bind {x : Action α} {f : α → Action β} (hx : x.Steady) (hf : ∀ a, (f a).Steady) :
    (x >>= f).Steady where
  answers := by
    intro s s' b h env out henv
    obtain ⟨a, s₁, hxa, hfa⟩ := run_bind_eq_ok_iff.mp h
    -- the second action begins in the session that the first began in, here and in `env`
    cases hx.unchanged hxa
    exact run_bind_eq_ok_iff.mpr
      ⟨a, _, hx.answers hxa env out henv, (hf a).answers hfa env out henv⟩
  stops := by
    intro s s' name h
    rcases run_bind_eq_error_iff.mp h with hxe | ⟨a, s₁, hxa, hfa⟩
    · exact hx.stops hxe
    · cases hx.unchanged hxa
      exact (hf a).stops hfa

/-- An action that never answers owes nothing for its answers. -/
theorem of_error {x : Action α} (hx : ∀ s, ∃ e, (x.run s).1 = .error e)
    (hstops : ∀ {s s' : Session} {name : Text}, x.run s = (.error (.redefinition name), s') →
      s' = s ∧ name ∈ s.env.names) : x.Steady where
  answers := by
    intro s s' a h
    obtain ⟨e, he⟩ := hx s
    rw [h] at he
    cases he
  stops := hstops

theorem fail {e : EvalError} (he : ∀ name, e ≠ .redefinition name) :
    (fail e : Action α).Steady := by
  refine of_error (fun s => ⟨e, rfl⟩) ?_
  intro s s' name h
  cases h
  exact absurd rfl (he name)

theorem lookup (name : Text) : (lookup name).Steady where
  answers := by
    intro s s' v h env out henv
    rw [run_lookup] at h ⊢
    cases hv : s.env.get? name with
    | none =>
      rw [hv] at h
      cases h
    | some w =>
      rw [hv] at h
      cases h
      rw [henv.get? hv]
  stops := by
    intro s s' other h
    rw [run_lookup] at h
    cases hv : s.env.get? name with
    | none =>
      rw [hv] at h
      cases h
    | some w =>
      rw [hv] at h
      cases h

end Steady

end Action

namespace Expr

open Sexpr.Action (Steady)

variable {hasRoom : Nat → Bool}

/-- A definition in a value position is rejected once it has been made. -/
theorem steady_define_needed (e : Expr) (name : Text) (v : Value) (doc : Option Text) :
    (Action.define name v doc >>= fun _ => (pure none : Action _) >>= e.needed).Steady := by
  have hrun (s : Session) :
      (∃ env, (Action.define name v doc >>= fun _ => (pure none : Action _) >>= e.needed).run s =
        (.error (.noValue e.text), { s with env })) ∨
      (Action.define name v doc >>= fun _ => (pure none : Action _) >>= e.needed).run s =
        (.error (.redefinition name), s) ∧ name ∈ s.env.names := by
    rw [Action.run_bind, Action.run_define]
    cases henv : s.env.define? ⟨name, v, doc⟩ with
    | some env => exact .inl ⟨env, rfl⟩
    | none => exact .inr ⟨rfl, Env.define?_eq_none_iff.mp henv⟩
  apply Steady.of_error
  · intro s
    rcases hrun s with ⟨env, h⟩ | ⟨h, -⟩
    · exact ⟨_, by rw [h]⟩
    · exact ⟨_, by rw [h]⟩
  · intro s s' other h
    rcases hrun s with ⟨env, h'⟩ | ⟨h', hbound⟩
    · rw [h'] at h
      cases h
    · rw [h'] at h
      cases h
      exact ⟨rfl, hbound⟩

/-- A call in a value position answers from its arguments, or it is rejected once it has printed. -/
theorem steady_call_needed (e : Expr) (f : Builtin) (vs : List Value) :
    (f.call hasRoom vs >>= e.needed).Steady := by
  rcases f.call_cases hasRoom vs with ⟨r, hr, hcall⟩ | hcall
  · have hneeded : f.call hasRoom vs >>= e.needed = Action.ofExcept r := by
      rw [hcall]
      funext s
      cases r <;> rfl
    rw [hneeded]
    exact .ofExcept hr
  · rw [hcall, bind_assoc]
    have hrun (s : Session) : ∃ s' err, (Action.writeLine (Builtin.printed vs) >>= fun _ =>
        (pure none : Action _) >>= e.needed).run s = (.error err, s') ∧
          ∀ name, err ≠ .redefinition name := by
      rw [Action.run_bind]
      obtain ⟨out, h | h⟩ := Action.run_writeLine_cases (Builtin.printed vs) s
      · rw [h]
        exact ⟨_, _, rfl, fun _ => EvalError.noConfusion⟩
      · rw [h]
        exact ⟨_, _, rfl, fun _ => EvalError.noConfusion⟩
    apply Steady.of_error
    · intro s
      obtain ⟨s', err, h, -⟩ := hrun s
      exact ⟨err, by rw [h]⟩
    · intro s s' name h
      obtain ⟨s₁, err, h', hne⟩ := hrun s
      rw [h'] at h
      cases h
      exact absurd rfl (hne name)

theorem steady_evalAll {es : List Expr} (h : ∀ e ∈ es, (e.evalValue hasRoom).Steady) :
    (evalAll hasRoom es).Steady := by
  induction es with
  | nil => exact .pure []
  | cons e es ih =>
    rw [evalAll_cons]
    apply (h e List.mem_cons_self).bind
    intro v
    exact (ih fun d hd => h d (List.mem_cons_of_mem e hd)).bind fun vs => .pure (v :: vs)

/-- Evaluation for a value changes nothing when it succeeds, and nothing when a bound name stops it. -/
theorem steady_evalValue (e : Expr) : (e.evalValue hasRoom).Steady := by
  induction e using of_children with | h e ih => ?_
  cases e with
  | integer numeral n => exact .pure _
  | float numeral x => exact .pure _
  | string body => exact .pure _
  | character c => exact .pure _
  | ident name =>
    rw [evalValue, eval, bind_assoc]
    exact (Steady.lookup name.item).bind fun v => .pure v
  | list q elements =>
    rw [evalValue, eval, bind_assoc]
    exact (steady_evalAll ih).bind fun vs => .pure _
  | vector o elements =>
    rw [evalValue, eval, bind_assoc]
    apply (steady_evalAll ih).bind
    intro vs
    rw [bind_assoc]
    exact (Steady.ofExcept (ordinary_uniform vs)).bind fun us => .pure _
  | defvar k name value doc =>
    have hvalue := ih value (List.mem_singleton_self value)
    rw [evalValue, eval_defvar, bind_assoc]
    apply hvalue.bind
    intro v
    rw [bind_assoc]
    exact steady_define_needed _ _ _ _
  | call o callee args =>
    rw [evalValue, eval]
    cases Builtin.ofName? callee.item with
    | none => exact .fail fun _ => EvalError.noConfusion
    | some f =>
      dsimp only
      rw [bind_assoc]
      exact (steady_evalAll ih).bind fun vs => steady_call_needed _ f vs

end Expr

end Sexpr
