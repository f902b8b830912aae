import Sexpr.Proofs.Nodes
import Sexpr.Proofs.Ordinary

/-! Two runs side by side, of a program and of the same program with its variables replaced, in
related environments and on one stream. The runs stay in step if every variable does what its
replacement does and every definition keeps the environments related; all else that evaluation does
depends on the values only. Errors are compared through a function, which may forget a part of them. -/
namespace Sexpr

namespace Expr

variable (σ : Located Text → Expr)

mutual

/-- Puts an expression in the place of each variable that is looked up. The function of a call and
the name that is bound by a definition are no such variables. -/
def replace : Expr → Expr
  | call opening callee args => call opening callee (replaceAll args)
  | ident name => σ name
  | list quote elements => list quote (replaceAll elements)
  | vector opening elements => vector opening (replaceAll elements)
  | defvar keyword name value doc => defvar keyword name (replace value) doc
  | e => e

def replaceAll : List Expr → List Expr
  | [] => []
  | e :: es => replace e :: replaceAll es

end

theorem replaceAll_eq_map (es : List Expr) : replaceAll σ es = es.map (replace σ) := by
  induction es with
  | nil => rfl
  | cons e es ih => rw [replaceAll, ih, List.map_cons]

end Expr

namespace Action

variable {α β : Type}

inductive Matches (q : EvalError → EvalError) (R : Env → Env → Prop) :
    Except EvalError α × Session → Except EvalError α × Session → Prop
  | answers (a : α) {env env' : Env} (henv : R env env') (out : Output) :
    Matches q R (.ok a, ⟨env, out⟩) (.ok a, ⟨env', out⟩)
  | fails {e e' : EvalError} (he : q e = q e') {env env' : Env} (henv : R env env')
    (out : Output) : Matches q R (.error e, ⟨env, out⟩) (.error e', ⟨env', out⟩)

/-- From related environments and one stream the actions come to matching ends. -/
def Simulates (q : EvalError → EvalError) (R : Env → Env → Prop) (x y : Action α) : Prop :=
  ∀ env env' out, R env env' → Matches q R (x.run ⟨env, out⟩) (y.run ⟨env', out⟩)

namespace Simulates

variable {q : EvalError → EvalError} {R : Env → Env → Prop}

theorem ofExcept (r : Except EvalError α) : Simulates q R (ofExcept r) (ofExcept r) := by
  intro env env' out henv
  cases r with
  | ok a => exact .answers a henv out
  | error e => exact .fails rfl henv out

theorem pure (a : α) : Simulates q R (Pure.pure a) (Pure.pure a) :=
  ofExcept (.ok a)

theorem fail {e e' : EvalError} (he : q e = q e') :
    Simulates q R (fail e : Action α) (fail e') :=
  fun _ _ out henv => .fails he henv out

/-- Computations in step go on in step. -/
theorem bind {x y : Action α} {f g : α → Action β} (hxy : Simulates q R x y)
    (hfg : ∀ a, Simulates q R (f a) (g a)) : Simulates q R (x >>= f) (y >>= g) := by
  intro env env' out henv
  have hends := hxy env env' out henv
  rw [run_bind, run_bind]
  generalize x.run ⟨env, out⟩ = r, y.run ⟨env', out⟩ = r' at hends ⊢
  cases hends with
  | answers a henv' out' => exact hfg a _ _ out' henv'
  | fails he henv' out' => exact .fails he henv' out'

/-- Whether a stream takes a text does not depend on the variables. -/
theorem write (t : Text) : Simulates q R (write t) (write t) := by
  intro env env' out henv
  unfold run Action.write
  dsimp only
  split
  · exact .answers () henv _
  · exact .fails rfl henv _

theorem call (hasRoom : Nat → Bool) (f : Builtin) (vs : List Value) :
    Simulates q R (f.call hasRoom vs) (f.call hasRoom vs) := by
  rcases f.call_cases hasRoom vs with ⟨r, -, hcall⟩ | hcall
  · rw [hcall]
    exact (ofExcept r).bind fun v => pure (some v)
  · rw [hcall]
    have hline : Simulates q R (writeLine (Builtin.printed vs)) (writeLine (Builtin.printed vs)) :=
      (write _).bind fun _ => write _
    exact hline.bind fun _ => pure none

end Simulates

end Action

namespace Expr

open Sexpr.Action (Simulates)

variable {hasRoom : Nat → Bool} {q : EvalError → EvalError} {R : Env → Env → Prop}

theorem simulates_evalValue {e d : Expr} (h : Simulates q R (e.eval hasRoom) (d.eval hasRoom))
    (htext : q (.noValue e.text) = q (.noValue d.text)) :
    Simulates q R (e.evalValue hasRoom) (d.evalValue hasRoom) := by
  apply h.bind
  intro answer
  cases answer with
  | some v => exact .pure v
  | none => exact .fail htext

theorem simulates_evalAll {f : Expr → Expr} {es : List Expr}
    (h : ∀ e ∈ es, Simulates q R (e.evalValue hasRoom) ((f e).evalValue hasRoom)) :
    Simulates q R (evalAll hasRoom es) (evalAll hasRoom (es.map f)) := by
  induction es with
  | nil => exact .pure []
  | cons e es ih =>
    rw [List.map_cons, evalAll_cons, evalAll_cons]
    apply (h e List.mem_cons_self).bind
    intro v
    exact (ih fun d hd => h d (List.mem_cons_of_mem e hd)).bind fun vs => .pure (v :: vs)

def InStep (hasRoom : Nat → Bool) (q : EvalError → EvalError) (R : Env → Env → Prop)
    (σ : Located Text → Expr) (e : Expr) : Prop :=
  q (.noValue e.text) = q (.noValue (e.replace σ).text) ∧
    match e with
    | ident name => Simulates q R ((ident name).eval hasRoom) ((σ name).eval hasRoom)
    | defvar _ name _ doc => ∀ v, Simulates q R
        (Action.define name.item v (doc.map Located.item))
        (Action.define name.item v (doc.map Located.item))
    | _ => True

/-- Replacing variables keeps an expression in step if it does so at each node. -/
theorem simulates_replace {σ : Located Text → Expr} {e : Expr}
    (h : ∀ f ∈ e.nodes, InStep hasRoom q R σ f) :
    Simulates q R (e.eval hasRoom) ((e.replace σ).eval hasRoom) := by
  induction e using of_children with | h e ih => ?_
  have hself := (h e e.self_mem_nodes).2
  have hvalue : ∀ c ∈ e.children,
      Simulates q R (c.evalValue hasRoom) ((c.replace σ).evalValue hasRoom) := by
    intro c hc
    have hnodes : ∀ f ∈ c.nodes, InStep hasRoom q R σ f :=
      fun f hf => h f (mem_nodes_of_mem_children hc hf)
    exact simulates_evalValue (ih c hc hnodes) (hnodes c c.self_mem_nodes).1
  cases e with
  | integer numeral n => exact .pure _
  | float numeral x => exact .pure _
  | string body => exact .pure _
  | character c => exact .pure _
  | ident name =>
    exact hself
  | list k elements =>
    rw [replace, replaceAll_eq_map, eval, eval]
    exact (simulates_evalAll hvalue).bind fun vs => .pure _
  | vector o elements =>
    rw [replace, replaceAll_eq_map, eval, eval]
    apply (simulates_evalAll hvalue).bind
    intro vs
    exact (Simulates.ofExcept (uniform vs)).bind fun us => .pure _
  | defvar k name value doc =>
    rw [replace, eval_defvar, eval_defvar]
    apply (hvalue value (List.mem_singleton_self value)).bind
    intro v
    exact (hself v).bind fun _ => .pure none
  | call o callee args =>
    rw [replace, replaceAll_eq_map, eval, eval]
    cases Builtin.ofName? callee.item with
    | none => exact .fail rfl
    | some f => exact (simulates_evalAll hvalue).bind fun vs => .call hasRoom f vs

end Expr

theorem Program.simulates_replace {hasRoom : Nat → Bool} {q : EvalError → EvalError}
    {R : Env → Env → Prop} {σ : Located Text → Expr} {p : Program}
    (h : ∀ f ∈ Expr.nodesAll p, Expr.InStep hasRoom q R σ f) :
    Action.Simulates q R (p.eval hasRoom) (Program.eval hasRoom (p.map (Expr.replace σ))) := by
  unfold Program.eval
  -- the answer of the statements in front is arbitrary, for the induction
  generalize none = last
  induction p generalizing last with
  | nil => exact .pure last
  | cons e p ih =>
    rw [List.map_cons, List.foldlM_cons, List.foldlM_cons]
    apply Action.Simulates.bind
    · apply Expr.simulates_replace
      intro f hf
      exact h f (List.mem_append_left _ hf)
    · exact ih fun f hf => h f (List.mem_append_right _ hf)

end Sexpr
