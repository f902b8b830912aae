import Sexpr.Proofs.Nodes
import Sexpr.Proofs.Ordinary

/-! What evaluation does to a session. Parts are evaluated for their values, and an expression that
has answered a value has left the session alone; so the first effect below a form is also the last
one, because the form that made it answers nothing and is rejected on the spot. Only that rejection
can follow an effect. -/
namespace Sexpr

namespace Output

/-- Whatever was handed over before, every text is taken whole. -/
def TakesAll (out : Output) : Prop :=
  ∀ before t, Text.byteLength t ≤ out.takes before t

theorem takesAll_unlimited : unlimited.TakesAll :=
  fun _ _ => Nat.le_refl _

theorem TakesAll.hand {out : Output} (h : out.TakesAll) (t : Text) : (out.hand t).TakesAll :=
  h

theorem TakesAll.takesWhole {out : Output} (h : out.TakesAll) (t : Text) :
    out.takesWhole t = true :=
  decide_eq_true (h out.handed t)

end Output

namespace Action

theorem run_write_of_takesAll {s : Session} (hs : s.out.TakesAll) (t : Text) :
    (write t).run s = (.ok (), { s with out := s.out.hand t }) := by
  rw [run, write, if_pos (hs.takesWhole t)]

/-- On a stream that takes everything, a line and its end are handed over and arrive. -/
theorem run_writeLine_of_takesAll {s : Session} (hs : s.out.TakesAll) (line : Text) :
    (writeLine line).run s = (.ok (), { s with out := (s.out.hand line).hand ['\n'] }) ∧
      ((s.out.hand line).hand ['\n']).received = s.out.received ++ Text.utf8 (line ++ ['\n']) := by
  have hline : (s.out.hand line).TakesAll := hs.hand line
  refine ⟨?_, ?_⟩
  · rw [writeLine, run_bind, run_write_of_takesAll hs]
    exact run_write_of_takesAll (s := { s with out := s.out.hand line }) hline ['\n']
  · rw [Output.received_hand (hline.takesWhole _), Output.received_hand (hs.takesWhole _),
      Text.utf8_append, List.append_assoc]

end Action

namespace Session

def Binds (name : Text) (doc : Option Text) (s s' : Session) : Prop :=
  s'.out = s.out ∧ ∃ v, s.env.define? ⟨name, v, doc⟩ = some s'.env

/-- One line was handed over and has arrived, and the variables are the same. -/
def Prints (s s' : Session) : Prop :=
  s'.env = s.env ∧ ∃ vs, s'.out = (s.out.hand (Builtin.printed vs)).hand ['\n'] ∧
    s'.out.received = s.out.received ++ Text.utf8 (Builtin.printed vs ++ ['\n'])

theorem ne_of_binds {name : Text} {doc : Option Text} {s s' : Session} (h : s.Binds name doc s') :
    s' ≠ s := by
  rintro rfl
  obtain ⟨-, v, hv⟩ := h
  have hsize := Env.size_define hv
  omega

theorem ne_of_prints {s s' : Session} (h : s.Prints s') : s' ≠ s := by
  rintro rfl
  obtain ⟨-, vs, hvs, -⟩ := h
  have hlength := congrArg (fun out => out.handed.length) hvs
  simp only [Output.hand, List.length_append, List.length_cons, List.length_nil] at hlength
  omega

end Session

namespace Expr

/-- The effect that a form has of its own: a definition binds its name, a call of the printing
function writes a line. -/
def Effect : Expr → Session → Session → Prop
  | defvar _ name _ doc, s, s' => s.Binds name.item (doc.map Located.item) s'
  | call _ callee _, s, s' => callee.item = Builtin.print.name ∧ s.Prints s'
  | _, _, _ => False

theorem Effect.binds_or_prints {e : Expr} {s s' : Session} (h : e.Effect s s') :
    (∃ name doc, s.Binds name doc s') ∨ s.Prints s' := by
  cases e with
  | defvar _ name _ doc => exact .inl ⟨_, _, h⟩
  | call _ callee _ => exact .inr h.2
  | _ => exact absurd h id

theorem Effect.ne {e : Expr} {s s' : Session} (h : e.Effect s s') : s' ≠ s := by
  rcases h.binds_or_prints with ⟨name, doc, hbinds⟩ | hprints
  · exact Session.ne_of_binds hbinds
  · exact Session.ne_of_prints hprints

end Expr

theorem ne_noValue_of_isOrdinary {e : EvalError} (h : e.isOrdinary = true) (form : Text) :
    e ≠ .noValue form := by
  rintro rfl
  cases h

variable {hasRoom : Nat → Bool}

/-- What can come of computing from the values of expressions. Nothing is left behind, unless a form
that is nested in one of them was rejected; then the session is as that form left it. -/
inductive FromValues (hasRoom : Nat → Bool) {α : Type} (es : List Expr) (s : Session) :
    Except EvalError α × Session → Prop
  | answered (a : α) : FromValues hasRoom es s (.ok a, s)
  | failed {e : EvalError} (he : ∀ form, e ≠ .noValue form) : FromValues hasRoom es s (.error e, s)
  | rejected {f : Expr} {s' : Session} (hf : f ∈ Expr.nodesAll es) (heffect : f.Effect s s')
    (hrun : (f.eval hasRoom).run s = (.ok none, s')) :
    FromValues hasRoom es s (.error (.noValue f.text), s')

inductive Expr.Outcome (hasRoom : Nat → Bool) (e : Expr) (s : Session) :
    Except EvalError (Option Value) × Session → Prop
  | value (v : Value) : Outcome hasRoom e s (.ok (some v), s)
  | effect {s' : Session} (heffect : e.Effect s s') : Outcome hasRoom e s (.ok none, s')
  | failed {err : EvalError} (herr : ∀ form, err ≠ .noValue form) : Outcome hasRoom e s (.error err, s)
  | rejected {f : Expr} {s' : Session} (hf : f ∈ Expr.nodesAll e.children)
    (heffect : f.Effect s s') (hrun : (f.eval hasRoom).run s = (.ok none, s')) :
    Outcome hasRoom e s (.error (.noValue f.text), s')

namespace FromValues

variable {α β : Type} {es : List Expr} {s : Session}

theorem ofExcept {r : Except EvalError α} (hr : Ordinary r) :
    FromValues hasRoom es s ((Action.ofExcept r).run s) := by
  cases r with
  | ok a => exact answered a
  | error e => exact failed (ne_noValue_of_isOrdinary hr.isOrdinary)

/-- The computation goes on in the session that it began in. -/
theorem bind {x : Action α} {k : α → Action β} (hx : FromValues hasRoom es s (x.run s))
    (hk : ∀ a, FromValues hasRoom es s ((k a).run s)) : FromValues hasRoom es s ((x >>= k).run s) := by
  rw [Action.run_bind]
  generalize x.run s = r at hx
  cases hx with
  | answered a => exact hk a
  | failed he => exact failed he
  | rejected hf heffect hrun => exact rejected hf heffect hrun

theorem mono {ds : List Expr} (hsub : ∀ f ∈ Expr.nodesAll ds, f ∈ Expr.nodesAll es)
    {r : Except EvalError α × Session} (h : FromValues hasRoom ds s r) :
    FromValues hasRoom es s r := by
  cases h with
  | answered a => exact answered a
  | failed he => exact failed he
  | rejected hf heffect hrun => exact rejected (hsub _ hf) heffect hrun

/-- An expression goes on from the values of its parts. -/
theorem outcome {e : Expr} {x : Action α} {k : α → Action (Option Value)}
    (hx : FromValues hasRoom e.children s (x.run s)) (hk : ∀ a, e.Outcome hasRoom s ((k a).run s)) :
    e.Outcome hasRoom s ((x >>= k).run s) := by
  rw [Action.run_bind]
  generalize x.run s = r at hx
  cases hx with
  | answered a => exact hk a
  | failed he => exact .failed he
  | rejected hf heffect hrun => exact .rejected hf heffect hrun

end FromValues

namespace Expr

variable {s : Session}

/-- A value position rejects a form after its effect, before anything else is evaluated. -/
theorem Outcome.evalValue {e : Expr} (h : e.Outcome hasRoom s ((e.eval hasRoom).run s)) :
    FromValues hasRoom [e] s ((e.evalValue hasRoom).run s) := by
  have hself : e ∈ nodesAll [e] :=
    mem_nodesAll_iff.mpr ⟨e, List.mem_singleton_self e, e.self_mem_nodes⟩
  have hnested : ∀ f ∈ nodesAll e.children, f ∈ nodesAll [e] := by
    intro f hf
    exact mem_nodesAll_iff.mpr ⟨e, List.mem_singleton_self e, nodes_eq e ▸ List.mem_cons_of_mem e hf⟩
  rw [Expr.evalValue, Action.run_bind]
  generalize hr : (e.eval hasRoom).run s = r at h
  cases h with
  | value v => exact .answered v
  | effect heffect =>
    exact .rejected hself heffect hr
  | failed herr => exact .failed herr
  | rejected hf heffect hrun => exact .rejected (hnested _ hf) heffect hrun

/-- Parts are evaluated in one session up to the first that has no value. -/
theorem fromValues_evalAll {es : List Expr}
    (h : ∀ e ∈ es, e.Outcome hasRoom s ((e.eval hasRoom).run s)) :
    FromValues hasRoom es s ((evalAll hasRoom es).run s) := by
  induction es with
  | nil => exact .answered []
  | cons e es ih =>
    have hhead : FromValues hasRoom (e :: es) s ((e.evalValue hasRoom).run s) := by
      apply (h e List.mem_cons_self).evalValue.mono
      intro f hf
      simp only [nodesAll, List.append_nil] at hf
      exact List.mem_append_left _ hf
    have htail : FromValues hasRoom (e :: es) s ((evalAll hasRoom es).run s) := by
      apply (ih fun d hd => h d (List.mem_cons_of_mem e hd)).mono
      intro f hf
      exact List.mem_append_right _ hf
    -- the session is the same at every element, since those in front have answered values
    rw [evalAll_cons]
    exact hhead.bind fun v => htail.bind fun vs => .answered (v :: vs)

end Expr

/-- Only printing looks at the session. -/
theorem outcome_call {o : Pos} {callee : Located Text} {args : List Expr} {f : Builtin}
    (hf : f.name = callee.item) {s : Session} (hs : s.out.TakesAll) (vs : List Value) :
    (Expr.call o callee args).Outcome hasRoom s ((f.call hasRoom vs).run s) := by
  have hvalue {r : Except EvalError Value} (hr : Ordinary r) :
      (Expr.call o callee args).Outcome hasRoom s ((some <$> Action.ofExcept r).run s) := by
    cases r with
    | ok v => exact .value v
    | error e => exact .failed (ne_noValue_of_isOrdinary hr.isOrdinary)
  cases f with
  | arithmetic op => exact hvalue (Builtin.ordinary_arithmetic hasRoom op vs)
  | comparison rel => exact hvalue (Builtin.ordinary_comparison rel vs)
  | append => exact hvalue (Builtin.ordinary_appendTo vs)
  | print =>
    obtain ⟨hrun, hreceived⟩ := Action.run_writeLine_of_takesAll hs (Builtin.printed vs)
    have hprint : (Builtin.print.call hasRoom vs).run s =
        (.ok none, { s with out := (s.out.hand (Builtin.printed vs)).hand ['\n'] }) := by
      rw [Builtin.call, Action.run_bind, hrun]
      rfl
    rw [hprint]
    exact .effect ⟨hf.symm, rfl, vs, rfl, hreceived⟩

/-- On a stream that takes everything, an evaluation comes to one of these ends. -/
theorem Expr.outcome (hasRoom : Nat → Bool) (e : Expr) {s : Session} (hs : s.out.TakesAll) :
    e.Outcome hasRoom s ((e.eval hasRoom).run s) := by
  induction e using of_children with | h e ih => ?_
  cases e with
  | integer numeral n => exact .value _
  | float numeral x => exact .value _
  | string body => exact .value _
  | character c => exact .value _
  | ident name =>
    rw [eval, Action.run_bind, Action.run_lookup]
    cases s.env.get? name.item with
    | some v => exact .value v
    | none => exact .failed (by simp)
  | list q elements =>
    rw [eval]
    exact (fromValues_evalAll ih).outcome fun vs => .value _
  | vector o elements =>
    rw [eval]
    apply (fromValues_evalAll ih).outcome
    intro vs
    exact (FromValues.ofExcept (ordinary_uniform vs)).outcome fun us => .value _
  | defvar k name value doc =>
    have hvalue : FromValues hasRoom (defvar k name value doc).children s
        ((value.evalValue hasRoom).run s) :=
      (ih value (List.mem_singleton_self value)).evalValue
    rw [eval_defvar]
    apply hvalue.outcome
    intro v
    rw [Action.run_bind, Action.run_define]
    cases henv : s.env.define? ⟨name.item, v, doc.map Located.item⟩ with
    | none => exact .failed (by simp)
    | some env => exact .effect ⟨rfl, v, henv⟩
  | call o callee args =>
    rw [eval]
    cases hf : Builtin.ofName? callee.item with
    | none => exact .failed (by simp)
    | some f =>
      apply (fromValues_evalAll ih).outcome
      intro vs
      exact outcome_call (Builtin.ofName?_eq_some_iff.mp hf) hs vs

/-- On a stream that takes everything, an expression makes at most one effect. A value has none
behind it, and of the errors only the rejection of a nested form has one, which is that form's own. -/
theorem evaluation_makes_at_most_one_effect (hasRoom : Nat → Bool) (e : Expr) {s : Session}
    (hs : s.out.TakesAll) :
    (∀ v s', (e.evalValue hasRoom).run s = (.ok v, s') → s' = s) ∧
      (∀ answer s', (e.eval hasRoom).run s = (answer, s') →
        s' = s ∨ (∃ name doc, s.Binds name doc s') ∨ s.Prints s') ∧
      ∀ err s', (e.eval hasRoom).run s = (.error err, s') →
        (s' ≠ s ↔ ∃ form, err = .noValue form) ∧
          ∀ form, err = .noValue form → ∃ f ∈ Expr.nodesAll e.children,
            form = f.text ∧ f.Effect s s' ∧ (f.eval hasRoom).run s = (.ok none, s') := by
  have houtcome := e.outcome hasRoom hs
  refine ⟨?_, ?_, ?_⟩
  · intro v s' h
    have hvalue := houtcome.evalValue
    rw [h] at hvalue
    cases hvalue
    rfl
  · intro answer s' h
    rw [h] at houtcome
    cases houtcome with
    | value v => exact .inl rfl
    | effect heffect => exact .inr heffect.binds_or_prints
    | failed herr => exact .inl rfl
    | rejected hf heffect hrun => exact .inr heffect.binds_or_prints
  · intro err s' h
    rw [h] at houtcome
    cases houtcome with
    | failed herr =>
      refine ⟨⟨fun hne => absurd rfl hne, ?_⟩, fun form hform => absurd hform (herr form)⟩
      rintro ⟨form, hform⟩
      exact absurd hform (herr form)
    | rejected hf heffect hrun =>
      refine ⟨⟨fun _ => ⟨_, rfl⟩, fun _ => heffect.ne⟩, ?_⟩
      intro form hform
      exact ⟨_, hf, (EvalError.noValue.inj hform).symm, heffect, hrun⟩

/-- The line has arrived when the list rejects the call that printed it. -/
theorem nested_print_is_rejected_after_its_line :
    ∃ s', ((Expr.list ⟨0, 0⟩ [.integer ⟨['1'], ⟨2, 2⟩⟩ 1, .call ⟨4, 4⟩ ⟨Builtin.print.name, ⟨5, 5⟩⟩
        [.string ⟨['x'], ⟨11, 11⟩⟩]]).eval fun _ => true).run Session.start =
          (.error (.noValue "(print \"x\")".toList), s') ∧
      s'.out.received = [0x78, 0x0A] ∧ s' ≠ Session.start := by
  have h : ((Expr.list ⟨0, 0⟩ [.integer ⟨['1'], ⟨2, 2⟩⟩ 1,
      .call ⟨4, 4⟩ ⟨Builtin.print.name, ⟨5, 5⟩⟩ [.string ⟨['x'], ⟨11, 11⟩⟩]]).eval
        fun _ => true).run Session.start =
        (.error (.noValue "(print \"x\")".toList),
          ⟨.empty, (Output.unlimited.hand ['x']).hand ['\n']⟩) := by
    rfl
  exact ⟨_, h, rfl, ((evaluation_makes_at_most_one_effect _ _
    Output.takesAll_unlimited).2.2 _ _ h).1.mpr ⟨_, rfl⟩⟩

end Sexpr
