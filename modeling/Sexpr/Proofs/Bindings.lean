import Mathlib.Data.List.Nodup
import Sexpr.Run
import Sexpr.Proofs.Values

/-! The history of the variables. Evaluation adds bindings in front of those that are there, one for
each definition that succeeds, and does nothing else to them; so what a session has bound is what it
began with and what was made since. The record of the bindings made is kept beside the computation
and follows it up to the point where it stops. -/
namespace Sexpr

namespace Env

theorem find?_eq_some_iff {env : Env} {name : Text} {b : Binding} :
    env.find? name = some b ↔ b ∈ env.bindings ∧ b.name = name := by
  constructor
  · intro h
    exact ⟨List.mem_of_find?_eq_some h, by simpa using List.find?_some h⟩
  · rintro ⟨hb, rfl⟩
    cases hc : env.find? b.name with
    | none => exact absurd (List.mem_map_of_mem hb) (find?_eq_none_iff.mp hc)
    | some c =>
      have hname : c.name = b.name := by simpa using List.find?_some hc
      rw [List.inj_on_of_nodup_map env.nodup_names (List.mem_of_find?_eq_some hc) hb hname]

def added (env : Env) (b : Binding) : List Binding :=
  match env.define? b with
  | some _ => [b]
  | none => []

variable {env env' : Env} {made : List Binding}

/-- Bindings in front hide none of those behind them. -/
theorem le_of_bindings (h : env'.bindings = made ++ env.bindings) : env.Le env' := by
  intro name b hb
  rw [find?_eq_some_iff] at hb ⊢
  rw [h]
  exact ⟨List.mem_append_right made hb.1, hb.2⟩

/-- A name that was not bound since is found as before. -/
theorem find?_eq_of_bindings (h : env'.bindings = made ++ env.bindings) {name : Text}
    (hname : ∀ b ∈ made, b.name ≠ name) : env'.find? name = env.find? name := by
  have hmade : made.find? (·.name == name) = none := by simpa using hname
  rw [find?, h, List.find?_append, hmade]
  rfl

theorem find?_of_mem_made (h : env'.bindings = made ++ env.bindings) {b : Binding}
    (hb : b ∈ made) : env'.find? b.name = some b := by
  rw [find?_eq_some_iff, h]
  exact ⟨List.mem_append_left _ hb, rfl⟩

theorem size_of_bindings (h : env'.bindings = made ++ env.bindings) :
    env'.size = env.size + made.length := by
  rw [size, size, h, List.length_append, Nat.add_comm]

theorem count_names (env : Env) (name : Text) :
    env.names.count name = if (env.find? name).isSome then 1 else 0 := by
  cases h : env.find? name with
  | none => exact List.count_eq_zero.mpr (find?_eq_none_iff.mp h)
  | some b =>
    obtain ⟨hb, rfl⟩ := find?_eq_some_iff.mp h
    exact List.count_eq_one_of_mem env.nodup_names (List.mem_map_of_mem hb)

end Env

namespace Action

variable {α β : Type}

/-- What is made after an action: nothing if it fails. -/
def madeAfter (x : Action α) (s : Session) (made : α → Session → List Binding) : List Binding :=
  match x.run s with
  | (.ok a, s') => made a s'
  | (.error _, _) => []

/-- From every session, the action makes the recorded bindings, in their order, and it leaves all
others as they are. This is so however it ends. -/
def Makes (x : Action α) (made : Session → List Binding) : Prop :=
  ∀ s, (x.run s).2.env.bindings = (made s).reverse ++ s.env.bindings

namespace Makes

variable {x : Action α} {f : α → Action β} {made : Session → List Binding}

/-- The record of the second action comes behind that of the first. -/
theorem bind {next : α → Session → List Binding} (hx : x.Makes made)
    (hf : ∀ a, (f a).Makes (next a)) :
    (x >>= f).Makes fun s => made s ++ x.madeAfter s next := by
  intro s
  have hs := hx s
  change _ = (made s ++ x.madeAfter s next).reverse ++ s.env.bindings
  rw [run_bind, madeAfter]
  generalize x.run s = r at hs ⊢
  obtain ⟨e | a, s₁⟩ := r
  · rw [List.append_nil]
    exact hs
  · rw [List.reverse_append, List.append_assoc, ← hs]
    exact hf a s₁

/-- Only the first of two actions makes bindings. -/
theorem bind_of_nothing (hx : x.Makes made) (hf : ∀ a, (f a).Makes fun _ => []) :
    (x >>= f).Makes made := by
  intro s
  have hs := hx s
  rw [run_bind]
  generalize x.run s = r at hs ⊢
  obtain ⟨e | a, s₁⟩ := r
  · exact hs
  · exact (hf a s₁).trans hs

theorem ofExcept (r : Except EvalError α) : (ofExcept r).Makes fun _ => [] :=
  fun _ => rfl

theorem lookup (name : Text) : (lookup name).Makes fun _ => [] := by
  intro s
  rw [run_lookup]
  cases s.env.get? name <;> rfl

theorem writeLine (line : Text) : (writeLine line).Makes fun _ => [] := by
  intro s
  obtain ⟨out, h | h⟩ := run_writeLine_cases line s <;> rw [h] <;> rfl

theorem define (name : Text) (v : Value) (doc : Option Text) :
    (define name v doc).Makes fun s => s.env.added ⟨name, v, doc⟩ := by
  intro s
  change _ = (s.env.added _).reverse ++ s.env.bindings
  rw [run_define, Env.added]
  cases h : s.env.define? ⟨name, v, doc⟩ with
  | none => rfl
  | some env => exact (Env.define?_eq_some_iff.mp h).2

theorem call (hasRoom : Nat → Bool) (f : Builtin) (vs : List Value) :
    (f.call hasRoom vs).Makes fun _ => [] := by
  rcases f.call_cases hasRoom vs with ⟨r, -, hcall⟩ | hcall
  · rw [hcall]
    exact (ofExcept r).bind_of_nothing fun v => ofExcept (.ok (some v))
  · rw [hcall]
    exact (writeLine _).bind_of_nothing fun _ => ofExcept (.ok none)

end Makes

end Action

namespace Expr

section

variable (hasRoom : Nat → Bool)

mutual

def made : Expr → Session → List Binding
  | list _ elements => madeAll elements
  | vector _ elements => madeAll elements
  | defvar _ name value doc => fun s => made value s ++
    (value.evalValue hasRoom).madeAfter s fun v s' =>
      s'.env.added ⟨name.item, v, doc.map Located.item⟩
  | call _ callee args =>
    match Builtin.ofName? callee.item with
    | none => fun _ => []
    | some _ => madeAll args
  | _ => fun _ => []

def madeAll : List Expr → Session → List Binding
  | [] => fun _ => []
  | e :: es => fun s => made e s ++ (e.evalValue hasRoom).madeAfter s fun _ => madeAll es

end

end

variable {hasRoom : Nat → Bool}

open Sexpr.Action (Makes)

theorem makes_needed (e : Expr) (answer : Option Value) :
    (e.needed answer).Makes fun _ => [] := by
  cases answer with
  | some v => exact Makes.ofExcept (.ok v)
  | none => exact Makes.ofExcept (.error _)

theorem makes_evalValue {e : Expr} (h : (e.eval hasRoom).Makes (e.made hasRoom)) :
    (e.evalValue hasRoom).Makes (e.made hasRoom) :=
  h.bind_of_nothing (makes_needed e)

theorem makes_evalAll {es : List Expr} (h : ∀ e ∈ es, (e.eval hasRoom).Makes (e.made hasRoom)) :
    (evalAll hasRoom es).Makes (madeAll hasRoom es) := by
  induction es with
  | nil => exact Makes.ofExcept (.ok [])
  | cons e es ih =>
    have htail := ih fun d hd => h d (List.mem_cons_of_mem e hd)
    rw [evalAll_cons, madeAll]
    apply (makes_evalValue (h e List.mem_cons_self)).bind
    intro v
    exact htail.bind_of_nothing fun vs => .ofExcept (.ok (v :: vs))

/-- The record of an expression holds what its evaluation binds, at whatever depth it fails. -/
theorem makes_eval (e : Expr) : (e.eval hasRoom).Makes (e.made hasRoom) := by
  induction e using of_children with | h e ih => ?_
  cases e with
  | integer numeral n => exact Makes.ofExcept (.ok _)
  | float numeral x => exact Makes.ofExcept (.ok _)
  | string body => exact Makes.ofExcept (.ok _)
  | character c => exact Makes.ofExcept (.ok _)
  | ident name =>
    rw [eval]
    exact (Makes.lookup name.item).bind_of_nothing fun v => .ofExcept (.ok _)
  | list q elements =>
    rw [eval, made]
    exact (makes_evalAll ih).bind_of_nothing fun vs => .ofExcept (.ok _)
  | vector o elements =>
    rw [eval, made]
    apply (makes_evalAll ih).bind_of_nothing
    intro vs
    exact (Makes.ofExcept (uniform vs)).bind_of_nothing fun us => .ofExcept (.ok _)
  | defvar k name value doc =>
    rw [eval_defvar, made]
    apply (makes_evalValue (ih value (List.mem_singleton_self value))).bind
    intro v
    exact (Makes.define _ _ _).bind_of_nothing fun _ => .ofExcept (.ok none)
  | call o callee args =>
    rw [eval, made]
    cases Builtin.ofName? callee.item with
    | none => exact Makes.ofExcept (.error _)
    | some f => exact (makes_evalAll ih).bind_of_nothing fun vs => .call hasRoom f vs

end Expr

namespace Program

def made (hasRoom : Nat → Bool) : Program → Session → List Binding
  | [], _ => []
  | e :: p, s => e.made hasRoom s ++ (e.eval hasRoom).madeAfter s fun _ => made hasRoom p

variable {hasRoom : Nat → Bool}

theorem makes_foldlM_eval (p : Program) (last : Option Value) :
    Action.Makes (p.foldlM (fun _ e => e.eval hasRoom) last) (p.made hasRoom) := by
  induction p generalizing last with
  | nil => exact Action.Makes.ofExcept (.ok last)
  | cons e p ih =>
    rw [List.foldlM_cons]
    exact e.makes_eval.bind ih

/-- A program that a bound name stops has been evaluated up to the statement with the refused
definition, and that statement has not changed the session. -/
theorem stops_of_redefinition {p : Program} {last : Option Value} {s s' : Session} {name : Text}
    (h : Action.run (p.foldlM (fun _ e => e.eval hasRoom) last) s =
      (.error (.redefinition name), s')) :
    ∃ front e back answer, p = front ++ e :: back ∧
      Action.run (front.foldlM (fun _ e => e.eval hasRoom) last) s = (.ok answer, s') ∧
      (e.eval hasRoom).run s' = (.error (.redefinition name), s') ∧ name ∈ s'.env.names := by
  induction p generalizing last s with
  | nil => cases h
  | cons e p ih =>
    rw [List.foldlM_cons, Action.run_bind_eq_error_iff] at h
    rcases h with he | ⟨answer, s₁, he, hp⟩
    · have hvalue : (e.evalValue hasRoom).run s = (.error (.redefinition name), s') := by
        rw [Expr.run_evalValue, he]
      obtain ⟨rfl, hbound⟩ := (Expr.steady_evalValue e).stops hvalue
      exact ⟨[], e, p, last, rfl, rfl, he, hbound⟩
    · obtain ⟨front, f, back, answer', rfl, hfront, hf, hbound⟩ := ih hp
      refine ⟨e :: front, f, back, answer', rfl, ?_, hf, hbound⟩
      rw [List.foldlM_cons, Action.run_bind, he]
      exact hfront

end Program

inductive Step
  | run (source : Text)
  /-- One statement, evaluated whatever came of those before it. -/
  | statement (e : Expr)
  | define (b : Binding)
  | redirect (out : Output)

namespace Step

def ending (x : Action (Option Value)) (s : Session) : Session.Answer × Session :=
  ((x.run s).1.mapError .evaluating, (x.run s).2)

def perform (hasRoom : Nat → Bool) (s : Session) : Step → Session.Answer × Session
  | run source => s.run hasRoom source
  | statement e => ending (e.eval hasRoom) s
  | define b => ending (Action.define b.name b.value b.doc >>= fun _ => pure none) s
  | redirect out => (.ok none, { s with out })

def made (hasRoom : Nat → Bool) (s : Session) : Step → List Binding
  | run source =>
    match Program.parse source with
    | .error _ => []
    | .ok p => p.made hasRoom s
  | statement e => e.made hasRoom s
  | define b => s.env.added b
  | redirect _ => []

variable {hasRoom : Nat → Bool}

/-- The record of a step holds what the step binds, also where the step fails. -/
theorem bindings_perform (s : Session) (step : Step) :
    (step.perform hasRoom s).2.env.bindings =
      (step.made hasRoom s).reverse ++ s.env.bindings := by
  cases step with
  | run source =>
    rw [perform, made, Session.run]
    cases Program.parse source with
    | error e => rfl
    | ok p => exact Program.makes_foldlM_eval p none s
  | statement e => exact e.makes_eval s
  | define b =>
    exact (Action.Makes.define b.name b.value b.doc).bind_of_nothing
      (fun _ => .ofExcept (.ok none)) s
  | redirect out => rfl

/-- The step was stopped by a definition of a name that is bound. The refused definition found the
session as the step leaves it; all that a step has done up to there are statements of its source that
succeeded. -/
inductive StopsAt (hasRoom : Nat → Bool) (name : Text) (s : Session) : Step → Session → Prop
  | run {source : Text} {s' : Session} (front : Program) (e : Expr) (back : Program)
    (answer : Option Value) (hparse : Program.parse source = .ok (front ++ e :: back))
    (hfront : (Program.eval hasRoom front).run s = (.ok answer, s'))
    (hstop : (e.eval hasRoom).run s' = (.error (.redefinition name), s'))
    (hbound : name ∈ s'.env.names) :
    StopsAt hasRoom name s (.run source) s'
  | statement {e : Expr} (hbound : name ∈ s.env.names) : StopsAt hasRoom name s (.statement e) s
  | define {b : Binding} (hname : b.name = name) (hbound : name ∈ s.env.names) :
    StopsAt hasRoom name s (.define b) s

theorem run_eq_error_of_ending {x : Action (Option Value)} {s s' : Session} {e : EvalError}
    (h : ending x s = (.error (.evaluating e), s')) : x.run s = (.error e, s') := by
  rw [ending] at h
  generalize x.run s = r at h ⊢
  obtain ⟨d | a, s₁⟩ := r <;> cases h
  rfl

/-- A step fails over a bound name only where a definition of that name was refused. -/
theorem stopsAt_of_redefinition {s s' : Session} {step : Step} {name : Text}
    (h : step.perform hasRoom s = (.error (.evaluating (.redefinition name)), s')) :
    step.StopsAt hasRoom name s s' := by
  cases step with
  | run source =>
    rw [perform, Session.run] at h
    cases hp : Program.parse source with
    | error e =>
      rw [hp] at h
      cases h
    | ok p =>
      rw [hp] at h
      have hrun : Action.run (p.foldlM (fun _ e => e.eval hasRoom) none) s =
          (.error (.redefinition name), s') := run_eq_error_of_ending h
      obtain ⟨front, e, back, answer, rfl, hfront, he, hbound⟩ :=
        Program.stops_of_redefinition hrun
      exact .run front e back answer hp hfront he hbound
  | statement e =>
    have hvalue : (e.evalValue hasRoom).run s = (.error (.redefinition name), s') := by
      rw [Expr.run_evalValue, run_eq_error_of_ending h]
    obtain ⟨rfl, hbound⟩ := (Expr.steady_evalValue e).stops hvalue
    exact .statement hbound
  | define b =>
    have hrun := run_eq_error_of_ending h
    rw [Action.run_bind, Action.run_define] at hrun
    cases henv : s.env.define? ⟨b.name, b.value, b.doc⟩ with
    | some env =>
      rw [henv] at hrun
      cases hrun
    | none =>
      rw [henv] at hrun
      cases hrun
      exact .define rfl (Env.define?_eq_none_iff.mp henv)
  | redirect out => cases h

/-- A direct definition fails on a bound name only, and tells it. -/
theorem failure_of_define {s s' : Session} {b : Binding} {failure : Failure}
    (h : (define b).perform hasRoom s = (.error failure, s')) :
    failure = .evaluating (.redefinition b.name) := by
  rw [perform, ending, Action.run_bind, Action.run_define] at h
  cases henv : s.env.define? ⟨b.name, b.value, b.doc⟩ with
  | some env =>
    rw [henv] at h
    cases h
  | none =>
    rw [henv] at h
    cases h
    rfl

end Step

namespace Session

section

variable (hasRoom : Nat → Bool)

def after (s : Session) (steps : List Step) : Session :=
  steps.foldl (fun s step => (step.perform hasRoom s).2) s

def madeBy (s : Session) : List Step → List Binding
  | [] => []
  | step :: steps => step.made hasRoom s ++ madeBy (step.perform hasRoom s).2 steps

end

variable {hasRoom : Nat → Bool}

/-- Evaluating statements one by one is taking a step for each. -/
theorem evalEach_eq_after (s : Session) (p : Program) :
    (s.evalEach hasRoom p).2 = s.after hasRoom (p.map .statement) := by
  induction p generalizing s with
  | nil => rfl
  | cons e p ih => exact ih ((e.eval hasRoom).run s).2

/-- What a session has bound is what was made since, the latest first, and what it began with. -/
theorem bindings_after (hasRoom : Nat → Bool) (s : Session) (steps : List Step) :
    (s.after hasRoom steps).env.bindings = (s.madeBy hasRoom steps).reverse ++ s.env.bindings := by
  induction steps generalizing s with
  | nil => rfl
  | cons step steps ih =>
    calc (s.after hasRoom (step :: steps)).env.bindings
        = ((step.perform hasRoom s).2.madeBy hasRoom steps).reverse ++
            (step.perform hasRoom s).2.env.bindings := ih _
      _ = (s.madeBy hasRoom (step :: steps)).reverse ++ s.env.bindings := by
        rw [step.bindings_perform, madeBy, List.reverse_append, List.append_assoc]

end Session

/-- Bindings are made once and never change. After any steps, failed ones included, a name that was
bound and a name that no step has made a binding of are found as before, each binding made is found,
and it is one more of the names, every one of which is listed once. A further step that fails over a
bound name has done nothing to it: the refused definition leaves the session as it found it. -/
theorem bindings_are_made_once (hasRoom : Nat → Bool) (s : Session) (steps : List Step) :
    (∀ name, name ∈ s.env.names ∨ (∀ b ∈ s.madeBy hasRoom steps, b.name ≠ name) →
        (s.after hasRoom steps).env.find? name = s.env.find? name) ∧
      (∀ b ∈ s.madeBy hasRoom steps, (s.after hasRoom steps).env.find? b.name = some b) ∧
      (s.after hasRoom steps).env.size = s.env.size + (s.madeBy hasRoom steps).length ∧
      (∀ name, (s.after hasRoom steps).env.names.count name =
        if ((s.after hasRoom steps).env.find? name).isSome then 1 else 0) ∧
      ∀ (step : Step) failure s',
        step.perform hasRoom (s.after hasRoom steps) = (.error failure, s') →
        (∀ b, step = .define b → failure = .evaluating (.redefinition b.name)) ∧
          ∀ name, failure = .evaluating (.redefinition name) →
            step.StopsAt hasRoom name (s.after hasRoom steps) s' := by
  have hbindings := s.bindings_after hasRoom steps
  refine ⟨?_, ?_, ?_, (s.after hasRoom steps).env.count_names, ?_⟩
  · rintro name (hbound | hother)
    · obtain ⟨b, hb⟩ : ∃ b, s.env.find? name = some b := by
        rw [← Option.ne_none_iff_exists', ne_eq, Env.find?_eq_none_iff]
        exact not_not_intro hbound
      rw [hb]
      exact Env.le_of_bindings hbindings name b hb
    · apply Env.find?_eq_of_bindings hbindings
      intro b hb
      exact hother b (List.mem_reverse.mp hb)
  · intro b hb
    exact Env.find?_of_mem_made hbindings (List.mem_reverse.mpr hb)
  · rw [Env.size_of_bindings hbindings, List.length_reverse]
  · intro step failure s' h
    refine ⟨?_, ?_⟩
    · rintro b rfl
      exact Step.failure_of_define h
    · rintro name rfl
      exact Step.stopsAt_of_redefinition h

/-- The definition inside a list counts although the list fails, and a name is refused afterwards
whichever way it was bound. -/
theorem nested_definition_stays_and_is_not_repeated :
    let hasRoom := fun _ => true
    let inList : Step := .statement (.list ⟨0, 0⟩
      [.defvar ⟨3, 3⟩ ⟨['y'], ⟨10, 10⟩⟩ (.character ⟨'b', ⟨12, 12⟩⟩) (some ⟨['d'], ⟨16, 16⟩⟩)])
    let s := Session.start.after hasRoom [.define ⟨['x'], .character 'a', none⟩, inList]
    s.env.size = 2 ∧ s.env.find? ['y'] = some ⟨['y'], .character 'b', some ['d']⟩ ∧
      inList.StopsAt hasRoom ['y'] s s := by
  intro hasRoom inList s
  have hmade : Session.start.madeBy hasRoom [.define ⟨['x'], .character 'a', none⟩, inList] =
      [⟨['x'], .character 'a', none⟩, ⟨['y'], .character 'b', some ['d']⟩] := by
    rfl
  have hfails : inList.perform hasRoom s = (.error (.evaluating (.redefinition ['y'])), s) := by
    rfl
  obtain ⟨-, hfound, hsize, -, hstop⟩ := bindings_are_made_once hasRoom Session.start
    [.define ⟨['x'], .character 'a', none⟩, inList]
  rw [hmade] at hfound hsize
  refine ⟨hsize, hfound _ (List.mem_cons_of_mem _ List.mem_cons_self), ?_⟩
  exact (hstop inList _ _ hfails).2 ['y'] rfl

end Sexpr
