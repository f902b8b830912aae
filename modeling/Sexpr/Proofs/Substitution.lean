import Sexpr.Proofs.Simulation
import Sexpr.Proofs.Values

/-! Replacing a variable by its definition. A value was computed without an effect, and wherever the
variables that it was computed from are bound it is computed again; so looking up a variable and
evaluating the expression that its value came from cannot be told apart, in whatever environments
evaluation gets to. -/
namespace Sexpr

/-- The error without the source form that it quotes. -/
def EvalError.unquoted : EvalError → EvalError
  | noValue _ => noValue []
  | e => e

namespace Env

/-- The environments differ in one name only: the first binds it, as given, and the second does not
bind it. -/
structure DiffersAt (b : Binding) (env env' : Env) : Prop where
  bound : env.find? b.name = some b
  unbound : env'.find? b.name = none
  others : ∀ name, name ≠ b.name → env.find? name = env'.find? name

theorem differsAt_of_define {env env' : Env} {b : Binding} (h : env.define? b = some env') :
    DiffersAt b env' env where
  bound := by rw [find?_define h, if_pos rfl]
  unbound := find?_eq_none_iff.mpr (define?_eq_some_iff.mp h).1
  others := by
    intro name hname
    rw [find?_define h, if_neg hname.symm]

/-- Another name is bound in both environments or in neither. -/
theorem DiffersAt.define {b c : Binding} {env env' : Env} (h : DiffersAt b env env')
    (hc : c.name ≠ b.name) :
    (env.define? c = none ∧ env'.define? c = none) ∨
      ∃ env₁ env₁', env.define? c = some env₁ ∧ env'.define? c = some env₁' ∧
        DiffersAt b env₁ env₁' := by
  have hnames : c.name ∈ env.names ↔ c.name ∈ env'.names := by
    rw [← Decidable.not_iff_not, ← find?_eq_none_iff, ← find?_eq_none_iff, h.others c.name hc]
  by_cases hbound : c.name ∈ env.names
  · exact .inl ⟨define?_eq_none_iff.mpr hbound, define?_eq_none_iff.mpr (hnames.mp hbound)⟩
  · obtain ⟨env₁, h₁⟩ := exists_define hbound
    obtain ⟨env₁', h₁'⟩ := exists_define (mt hnames.mpr hbound)
    refine .inr ⟨env₁, env₁', h₁, h₁', ?_⟩
    constructor
    · rw [find?_define h₁, if_neg hc, h.bound]
    · rw [find?_define h₁', if_neg hc, h.unbound]
    · intro name hname
      rw [find?_define h₁, find?_define h₁', h.others name hname]

end Env

namespace Expr

def inPlaceOf (x : Text) (e : Expr) (name : Located Text) : Expr :=
  if name.item = x then e else ident name

end Expr

def Program.subst (x : Text) (e : Expr) (p : Program) : Program :=
  p.map (Expr.replace (Expr.inPlaceOf x e))

section

open Sexpr.Action (Simulates)

variable {hasRoom : Nat → Bool} {base : Env} {x : Text} {v : Value} {doc : Option Text}

def Paired (base : Env) (b : Binding) (env env' : Env) : Prop :=
  env.DiffersAt b env' ∧ base.Le env'

/-- Looking a variable up, and evaluating its expression anew, come to the same value. -/
theorem simulates_inPlaceOf {e : Expr} {out : Output} {s : Session}
    (hvalue : (e.evalValue hasRoom).run ⟨base, out⟩ = (.ok v, s)) (name : Located Text) :
    Simulates EvalError.unquoted (Paired base ⟨x, v, doc⟩) ((Expr.ident name).eval hasRoom)
      ((e.inPlaceOf x name).eval hasRoom) := by
  intro env env' out' henv
  obtain ⟨hdiffers, hbase⟩ := henv
  unfold Expr.inPlaceOf
  split
  · rename_i hname
    have hlookup : env.get? name.item = some v := by
      rw [Env.get?, hname, hdiffers.bound]
      rfl
    have hrun : ((Expr.ident name).eval hasRoom).run ⟨env, out'⟩ = (.ok (some v), ⟨env, out'⟩) := by
      rw [Expr.eval, Action.run_bind, Action.run_lookup, hlookup]
      rfl
    have hrun' : (e.eval hasRoom).run ⟨env', out'⟩ = (.ok (some v), ⟨env', out'⟩) :=
      Expr.run_evalValue_eq_ok_iff.mp ((Expr.steady_evalValue e).answers hvalue env' out' hbase)
    rw [hrun, hrun']
    exact .answers _ ⟨hdiffers, hbase⟩ out'
  · rename_i hname
    have hsame : env'.get? name.item = env.get? name.item := by
      rw [Env.get?, Env.get?, hdiffers.others name.item hname]
    rw [Expr.eval, Action.run_bind, Action.run_bind, Action.run_lookup, Action.run_lookup, hsame]
    cases env.get? name.item with
    | some w => exact .answers _ ⟨hdiffers, hbase⟩ out'
    | none => exact .fails rfl ⟨hdiffers, hbase⟩ out'

theorem simulates_define {name : Text} (hname : name ≠ x) (w : Value) (d : Option Text) :
    Simulates EvalError.unquoted (Paired base ⟨x, v, doc⟩) (Action.define name w d)
      (Action.define name w d) := by
  intro env env' out henv
  obtain ⟨hdiffers, hbase⟩ := henv
  rw [Action.run_define, Action.run_define]
  rcases hdiffers.define (c := ⟨name, w, d⟩) hname with ⟨h, h'⟩ | ⟨env₁, env₁', h, h', hdiffers'⟩
  · rw [h, h']
    exact .fails rfl ⟨hdiffers, hbase⟩ out
  · rw [h, h']
    exact .answers () ⟨hdiffers', hbase.trans (Env.le_define h')⟩ out

end

/-- A variable can be replaced by its definition. A program that does not define the variable does
the same where it is bound to a value, and where it is not bound and the expression that has this
value stands in its place; only the source form that a rejection quotes may differ. -/
theorem variable_replaced_by_its_definition {hasRoom : Nat → Bool} {base env : Env} {x : Text}
    {v : Value} {doc : Option Text} (hdefine : base.define? ⟨x, v, doc⟩ = some env) {e : Expr}
    {out₀ : Output} {s : Session} (hvalue : (e.evalValue hasRoom).run ⟨base, out₀⟩ = (.ok v, s)) {p : Program}
    (hother : ∀ k name value d, Expr.defvar k name value d ∈ Expr.nodesAll p → name.item ≠ x)
    (out : Output) :
    ∃ answer answer' env₁ env₁' out₁,
      (p.eval hasRoom).run ⟨env, out⟩ = (answer, ⟨env₁, out₁⟩) ∧
        (Program.eval hasRoom (p.subst x e)).run ⟨base, out⟩ = (answer', ⟨env₁', out₁⟩) ∧
        answer.mapError EvalError.unquoted = answer'.mapError EvalError.unquoted ∧
        env₁.DiffersAt ⟨x, v, doc⟩ env₁' := by
  have hinStep : ∀ f ∈ Expr.nodesAll p,
      Expr.InStep hasRoom EvalError.unquoted (Paired base ⟨x, v, doc⟩) (Expr.inPlaceOf x e) f := by
    intro f hf
    refine ⟨rfl, ?_⟩
    cases f with
    | ident name => exact simulates_inPlaceOf hvalue name
    | defvar k name value d => exact simulates_define (hother k name value d hf) (d := _)
    | _ => trivial
  have hpaired : Paired base ⟨x, v, doc⟩ env base :=
    ⟨Env.differsAt_of_define hdefine, Env.Le.refl base⟩
  have hends := Program.simulates_replace hinStep env base out hpaired
  generalize hr : (p.eval hasRoom).run ⟨env, out⟩ = r,
    hr' : (Program.eval hasRoom (p.map (Expr.replace (Expr.inPlaceOf x e)))).run ⟨base, out⟩ = r'
    at hends
  cases hends with
  | answers a henv out₁ => exact ⟨_, _, _, _, out₁, rfl, hr', rfl, henv.1⟩
  | fails he henv out₁ => exact ⟨_, _, _, _, out₁, rfl, hr', congrArg Except.error he, henv.1⟩

/-- A variable with the list `'(y)` for its value, looked up in a definition and in a line that a list
then rejects, on a stream that takes three bytes. -/
theorem list_of_a_variable_replaces_its_name :
    let hasRoom := fun _ => true
    let out : Output := ⟨[], fun before _ => 3 - Text.byteLength before.flatten⟩
    ∃ base env : Env, base.get? ['y'] = some (.character 'b') ∧
      base.define? ⟨['x'], .list [.character 'b'], none⟩ = some env ∧
      ∃ answer answer' env₁ env₁' out₁,
        Action.run (Program.eval hasRoom
            [.defvar ⟨1, 1⟩ ⟨['z'], ⟨8, 8⟩⟩ (.ident ⟨['x'], ⟨10, 10⟩⟩) none,
              .list ⟨13, 13⟩ [.call ⟨15, 15⟩ ⟨Builtin.print.name, ⟨16, 16⟩⟩
                [.ident ⟨['x'], ⟨22, 22⟩⟩]]])
            ⟨env, out⟩ = (answer, ⟨env₁, out₁⟩) ∧
          Action.run (Program.eval hasRoom
            [.defvar ⟨1, 1⟩ ⟨['z'], ⟨8, 8⟩⟩ (.list ⟨0, 0⟩ [.ident ⟨['y'], ⟨2, 2⟩⟩]) none,
              .list ⟨13, 13⟩ [.call ⟨15, 15⟩ ⟨Builtin.print.name, ⟨16, 16⟩⟩
                [.list ⟨0, 0⟩ [.ident ⟨['y'], ⟨2, 2⟩⟩]]]])
            ⟨base, out⟩ = (answer', ⟨env₁', out₁⟩) ∧
          answer.mapError EvalError.unquoted = answer'.mapError EvalError.unquoted ∧
          env₁.DiffersAt ⟨['x'], .list [.character 'b'], none⟩ env₁' := by
  intro hasRoom out
  have hnodup : (List.map Binding.name [⟨['y'], .character 'b', none⟩]).Nodup :=
    List.nodup_cons.mpr ⟨List.not_mem_nil, List.nodup_nil⟩
  have hfresh : ['x'] ∉ [['y']] := by decide
  obtain ⟨env, hdefine⟩ : ∃ env, (Env.mk _ hnodup).define?
      ⟨['x'], .list [.character 'b'], none⟩ = some env :=
    Env.exists_define hfresh
  have hvalue : ((Expr.list ⟨0, 0⟩ [.ident ⟨['y'], ⟨2, 2⟩⟩]).evalValue hasRoom).run
      ⟨⟨_, hnodup⟩, .unlimited⟩ = (.ok (.list [.character 'b']), ⟨⟨_, hnodup⟩, .unlimited⟩) := by
    rfl
  refine ⟨_, env, rfl, hdefine, ?_⟩
  apply variable_replaced_by_its_definition hdefine hvalue
    (p := [.defvar ⟨1, 1⟩ ⟨['z'], ⟨8, 8⟩⟩ (.ident ⟨['x'], ⟨10, 10⟩⟩) none,
      .list ⟨13, 13⟩ [.call ⟨15, 15⟩ ⟨Builtin.print.name, ⟨16, 16⟩⟩ [.ident ⟨['x'], ⟨22, 22⟩⟩]]])
  intro k name value d h
  simp only [Expr.nodesAll, Expr.nodes, List.append_nil, List.cons_append, List.nil_append,
    List.mem_cons, List.not_mem_nil, or_false, reduceCtorEq, Expr.defvar.injEq] at h
  obtain ⟨-, rfl, -⟩ := h
  decide

end Sexpr
