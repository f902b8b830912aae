import Sexpr.Proofs.Bindings
import Sexpr.Proofs.Simulation

/-! What a program can see of the variables: the values of those that it looks up, and whether those
that it defines are bound. Two runs in environments that agree on all these names stay in step, since
both add the same bindings and so still agree; the functions of the language are found by a name of
their own, whatever variables are called. -/
namespace Sexpr

namespace Expr

/-- The variable that an expression itself looks up or defines. The function that a call names is
none. -/
def mentioned? : Expr → Option Text
  | ident name => some name.item
  | defvar _ name _ _ => some name.item
  | _ => none

theorem replace_ident (e : Expr) : e.replace ident = e := by
  induction e using of_children with | h e ih => ?_
  have hall : replaceAll ident e.children = e.children := by
    rw [replaceAll_eq_map, List.map_congr_left ih, List.map_id']
  cases e with
  | call o callee args => exact congrArg (call o callee) hall
  | list q elements => exact congrArg (list q) hall
  | vector o elements => exact congrArg (vector o) hall
  | defvar k name value doc => rw [replace, ih value (List.mem_singleton_self value)]
  | _ => rfl

end Expr

def Program.variables (p : Program) : List Text :=
  (Expr.nodesAll p).filterMap Expr.mentioned?

namespace Env

/-- Each of the names is bound to the same value in both environments, or in neither. Documentation
may differ. -/
def AgreeOn (names : List Text) (env env' : Env) : Prop :=
  ∀ name ∈ names, env.get? name = env'.get? name

def GrownAlike (base base' env env' : Env) : Prop :=
  ∃ made, env.bindings = made ++ base.bindings ∧ env'.bindings = made ++ base'.bindings

theorem get?_eq_none_iff {env : Env} {name : Text} : env.get? name = none ↔ name ∉ env.names := by
  rw [get?, Option.map_eq_none_iff, find?_eq_none_iff]

variable {base base' env env' : Env}

/-- A name on which the first environments agree is found alike in the later ones as well: it was
bound since, or it still is what it was. -/
theorem GrownAlike.get?_eq (h : GrownAlike base base' env env') {name : Text}
    (hname : base.get? name = base'.get? name) : env.get? name = env'.get? name := by
  obtain ⟨made, henv, henv'⟩ := h
  rw [get?, get?, find?, find?, henv, henv', List.find?_append, List.find?_append]
  cases made.find? (·.name == name) with
  | some b => rfl
  | none => exact hname

/-- A definition of such a name succeeds in both environments or is refused in both. -/
theorem GrownAlike.define? (h : GrownAlike base base' env env') {b : Binding}
    (hname : base.get? b.name = base'.get? b.name) :
    (env.define? b = none ∧ env'.define? b = none) ∨
      ∃ env₁ env₁', env.define? b = some env₁ ∧ env'.define? b = some env₁' ∧
        GrownAlike base base' env₁ env₁' := by
  have hbound : b.name ∈ env.names ↔ b.name ∈ env'.names := by
    rw [← Decidable.not_iff_not, ← get?_eq_none_iff, ← get?_eq_none_iff, h.get?_eq hname]
  by_cases hmem : b.name ∈ env.names
  · exact .inl ⟨define?_eq_none_iff.mpr hmem, define?_eq_none_iff.mpr (hbound.mp hmem)⟩
  · obtain ⟨env₁, h₁⟩ := exists_define hmem
    obtain ⟨env₁', h₁'⟩ := exists_define (mt hbound.mpr hmem)
    obtain ⟨made, henv, henv'⟩ := h
    refine .inr ⟨env₁, env₁', h₁, h₁', b :: made, ?_, ?_⟩
    · rw [(define?_eq_some_iff.mp h₁).2, henv, List.cons_append]
    · rw [(define?_eq_some_iff.mp h₁').2, henv', List.cons_append]

end Env

section

open Sexpr.Action (Simulates)

variable {hasRoom : Nat → Bool} {base base' : Env} {name : Text}

/-- Looking up a name on which the first environments agree has the same outcome. -/
theorem simulates_ident (pos : Pos) (hname : base.get? name = base'.get? name) :
    Simulates id (Env.GrownAlike base base') ((Expr.ident ⟨name, pos⟩).eval hasRoom)
      ((Expr.ident ⟨name, pos⟩).eval hasRoom) := by
  intro env env' out henv
  rw [Expr.eval, Action.run_bind, Action.run_bind, Action.run_lookup, Action.run_lookup,
    henv.get?_eq hname]
  cases env'.get? name with
  | some v => exact .answers (some v) henv out
  | none => exact .fails rfl henv out

theorem simulates_define_of_agree (hname : base.get? name = base'.get? name) (v : Value)
    (doc : Option Text) :
    Simulates id (Env.GrownAlike base base') (Action.define name v doc)
      (Action.define name v doc) := by
  intro env env' out henv
  rw [Action.run_define, Action.run_define]
  rcases henv.define? (b := ⟨name, v, doc⟩) hname with ⟨h, h'⟩ | ⟨env₁, env₁', h, h', henv₁⟩
  · rw [h, h']
    exact .fails rfl henv out
  · rw [h, h']
    exact .answers () henv₁ out

end

/-- A program sees only the variables that it mentions. Where these are bound to the same values or
not at all, it answers the same or fails with the same error, writes the same and makes the same
bindings, and it leaves all those alone that were there. -/
theorem program_sees_only_its_variables (hasRoom : Nat → Bool) {p : Program} {env env' : Env}
    (hagree : env.AgreeOn p.variables env') (out : Output) :
    ∃ answer made env₁ env₁' out₁,
      (p.eval hasRoom).run ⟨env, out⟩ = (answer, ⟨env₁, out₁⟩) ∧
        (p.eval hasRoom).run ⟨env', out⟩ = (answer, ⟨env₁', out₁⟩) ∧
        env₁.bindings = made ++ env.bindings ∧ env₁'.bindings = made ++ env'.bindings := by
  have hmentioned {e : Expr} (he : e ∈ Expr.nodesAll p) {name : Text}
      (hname : e.mentioned? = some name) : env.get? name = env'.get? name :=
    hagree name (List.mem_filterMap.mpr ⟨e, he, hname⟩)
  have hinStep : ∀ e ∈ Expr.nodesAll p, Expr.InStep hasRoom id (Env.GrownAlike env env') .ident e := by
    intro e he
    refine ⟨by rw [Expr.replace_ident], ?_⟩
    cases e with
    | ident name => exact simulates_ident name.pos (hmentioned he rfl)
    | defvar k name value doc => exact fun v => simulates_define_of_agree (hmentioned he rfl) v _
    | _ => trivial
  have hreplace : p.map (Expr.replace .ident) = p := by
    rw [List.map_congr_left fun e _ => e.replace_ident, List.map_id']
  have hends := Program.simulates_replace hinStep env env' out ⟨[], rfl, rfl⟩
  rw [hreplace] at hends
  generalize hr : (p.eval hasRoom).run ⟨env, out⟩ = r,
    hr' : (p.eval hasRoom).run ⟨env', out⟩ = r' at hends
  cases hends with
  | answers a henv out₁ =>
    obtain ⟨made, h, h'⟩ := henv
    exact ⟨_, made, _, _, out₁, rfl, rfl, h, h'⟩
  | fails he henv out₁ =>
    cases he
    obtain ⟨made, h, h'⟩ := henv
    exact ⟨_, made, _, _, out₁, rfl, rfl, h, h'⟩

/-- Variables that are called like functions, and documentation that differs. The program defines a
variable, prints a sum and then looks up a variable that neither environment has. -/
theorem variables_named_like_functions_are_not_seen :
    let hasRoom := fun _ => true
    let p : Program :=
      [.defvar ⟨1, 1⟩ ⟨['z'], ⟨8, 8⟩⟩ (.ident ⟨['x'], ⟨10, 10⟩⟩) none,
        .call ⟨13, 13⟩ ⟨Builtin.print.name, ⟨14, 14⟩⟩ [.call ⟨20, 20⟩ ⟨['+'], ⟨21, 21⟩⟩
          [.ident ⟨['z'], ⟨23, 23⟩⟩, .integer ⟨['1'], ⟨25, 25⟩⟩ 1]],
        .ident ⟨['w'], ⟨29, 29⟩⟩]
    ∃ env env' : Env, env.get? ['+'] = some (.bool true) ∧ env'.get? ['+'] = none ∧
      env.doc? ['x'] = none ∧ env'.doc? ['x'] = some ['d'] ∧
      ∃ answer made env₁ env₁' out₁,
        (p.eval hasRoom).run ⟨env, .unlimited⟩ = (answer, ⟨env₁, out₁⟩) ∧
          (p.eval hasRoom).run ⟨env', .unlimited⟩ = (answer, ⟨env₁', out₁⟩) ∧
          env₁.bindings = made ++ env.bindings ∧ env₁'.bindings = made ++ env'.bindings := by
  intro hasRoom p
  have hnodup : ([⟨Builtin.print.name, .int 0, none⟩, ⟨['+'], .bool true, none⟩,
      ⟨['x'], .int 1, none⟩].map Binding.name).Nodup := by
    decide
  have hnodup' : ([⟨['x'], .int 1, some ['d']⟩].map Binding.name).Nodup := by
    decide
  refine ⟨⟨_, hnodup⟩, ⟨_, hnodup'⟩, rfl, rfl, rfl, rfl, ?_⟩
  apply program_sees_only_its_variables
  intro name hname
  have hmentioned : name ∈ [['z'], ['x'], ['z'], ['w']] := hname
  simp only [List.mem_cons, List.not_mem_nil, or_false] at hmentioned
  rcases hmentioned with rfl | rfl | rfl | rfl <;> rfl

end Sexpr
