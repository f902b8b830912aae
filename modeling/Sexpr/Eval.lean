import Sexpr.Expr
import Sexpr.Builtin.Call

/-!
Evaluation. An expression answers a value, or nothing if it is a definition or a call that prints;
where a value is needed, an expression that answers nothing is an error, after its effect. Parts are
evaluated from left to right, and a call knows its function before it looks at its arguments. How much
room there is for texts is given.
-/

namespace Sexpr

def uniform (vs : List Value) : Except EvalError (List Value) :=
  match vs with
  | [] => .ok []
  | first :: _ =>
    match vs.zipIdx.find? (fun p => p.1.kind != first.kind) with
    | none => .ok vs
    | some (v, i) => .error (.vectorElementMismatch i first.kind v.kind)

namespace Expr

def needed (e : Expr) (answer : Option Value) : Action Value :=
  match answer with
  | some v => pure v
  | none => Action.fail (.noValue e.text)

section

variable (hasRoom : Nat → Bool)

mutual

def eval : Expr → Action (Option Value)
  | integer _ n => pure (some (.int n))
  | float _ x => pure (some (.float x))
  | string body => pure (some (.string body.item))
  | character c => pure (some (.character c.item))
  | ident name => do return some (← Action.lookup name.item)
  | list _ elements => do return some (.list (← evalAll elements))
  | vector _ elements => do
    let vs ← evalAll elements
    return some (.vector (← Action.ofExcept (uniform vs)))
  | defvar _ name value doc => do
    let v ← needed value (← eval value)
    Action.define name.item v (doc.map Located.item)
    return none
  | call _ callee args =>
    match Builtin.ofName? callee.item with
    | none => Action.fail (.undefinedFunction callee.item)
    | some f => do f.call hasRoom (← evalAll args)

def evalAll : List Expr → Action (List Value)
  | [] => pure []
  | e :: es => do
    let v ← needed e (← eval e)
    return v :: (← evalAll es)

end

def evalValue (e : Expr) : Action Value := do
  needed e (← eval hasRoom e)

end

variable {hasRoom : Nat → Bool}

/-- Where a value is needed, an expression is evaluated and a missing value is an error. -/
theorem run_evalValue (e : Expr) (s : Session) :
    (e.evalValue hasRoom).run s =
      match (e.eval hasRoom).run s with
      | (.ok (some v), s') => (.ok v, s')
      | (.ok none, s') => (.error (.noValue e.text), s')
      | (.error err, s') => (.error err, s') := by
  rw [evalValue, Action.run_bind]
  rcases (e.eval hasRoom).run s with ⟨_ | _ | v, s'⟩ <;> rfl

theorem run_evalValue_eq_ok_iff {e : Expr} {s s' : Session} {v : Value} :
    (e.evalValue hasRoom).run s = (.ok v, s') ↔ (e.eval hasRoom).run s = (.ok (some v), s') := by
  rw [run_evalValue]
  rcases (e.eval hasRoom).run s with ⟨_ | _ | w, s₁⟩ <;> simp

theorem evalAll_cons (e : Expr) (es : List Expr) :
    evalAll hasRoom (e :: es) =
      e.evalValue hasRoom >>= fun v => evalAll hasRoom es >>= fun vs => pure (v :: vs) := by
  rw [evalAll, evalValue, bind_assoc]

theorem eval_defvar (keyword : Pos) (name : Located Text) (value : Expr)
    (doc : Option (Located Text)) :
    (defvar keyword name value doc).eval hasRoom = value.evalValue hasRoom >>= fun v =>
      Action.define name.item v (doc.map Located.item) >>= fun _ => pure none := by
  rw [eval, evalValue, bind_assoc]

end Expr

/-- The last statement decides the answer; a program without statements answers nothing. -/
def Program.eval (hasRoom : Nat → Bool) (p : Program) : Action (Option Value) :=
  p.foldlM (fun _ e => e.eval hasRoom) none

end Sexpr
