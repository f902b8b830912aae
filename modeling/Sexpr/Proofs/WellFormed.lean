import Sexpr.Proofs.Bindings
import Sexpr.Proofs.Rendering

/-! Values that a session can come to. What the scanner lets into strings, characters and names is
kept by the tree of a program, and whatever is computed from well-formed values is well formed; so is
all that a session has bound or answers, since it began with nothing. -/
namespace Sexpr

namespace Value

/-- A value that can be written in a source, down to its innermost elements. -/
inductive WellFormed : Value → Prop
  | int (n : Int64) : WellFormed (int n)
  | float (x : Float) : WellFormed (float x)
  | string {t : Text} (ht : '"' ∉ t) : WellFormed (string t)
  | character {c : Char} (hc : Unicode.isWhiteSpace c = false) : WellFormed (character c)
  | bool (b : Bool) : WellFormed (bool b)
  | list {vs : List Value} (hvs : ∀ v ∈ vs, WellFormed v) : WellFormed (list vs)
  | vector {vs : List Value} (kind : Kind) (hkind : ∀ v ∈ vs, v.kind = kind)
    (hvs : ∀ v ∈ vs, WellFormed v) : WellFormed (vector vs)

end Value

def WellFormedAnswer (answer : Option Value) : Prop :=
  ∀ v ∈ answer, v.WellFormed

structure Binding.WellFormed (b : Binding) : Prop where
  name_ne_nil : b.name ≠ []
  isIdent_name : ∀ c ∈ b.name, Lexeme.isIdent c = true
  value : b.value.WellFormed
  doc : ∀ t ∈ b.doc, '"' ∉ t

def Env.WellFormed (env : Env) : Prop :=
  ∀ b ∈ env.bindings, b.WellFormed

theorem Env.WellFormed.get? {env : Env} (h : env.WellFormed) {name : Text} {v : Value}
    (hv : env.get? name = some v) : v.WellFormed := by
  obtain ⟨b, hb, rfl⟩ := Option.map_eq_some_iff.mp hv
  exact (h b (find?_eq_some_iff.mp hb).1).value

theorem Env.WellFormed.define? {env env' : Env} (h : env.WellFormed) {b : Binding}
    (hb : b.WellFormed) (hdefine : env.define? b = some env') : env'.WellFormed := by
  intro c hc
  rw [(define?_eq_some_iff.mp hdefine).2] at hc
  rcases List.mem_cons.mp hc with rfl | hc
  · exact hb
  · exact h c hc

def Gives {α : Type} (P : α → Prop) (r : Except EvalError α) : Prop :=
  ∀ a, r = .ok a → P a

namespace Gives

variable {α β : Type} {P : α → Prop} {Q : β → Prop}

theorem ok {a : α} (h : P a) : Gives P (.ok a) := by
  intro b hb
  cases hb
  exact h

theorem error (e : EvalError) : Gives P (.error e) := by
  intro a ha
  cases ha

theorem bind {r : Except EvalError α} {f : α → Except EvalError β} (hr : Gives P r)
    (hf : ∀ a, P a → Gives Q (f a)) : Gives Q (r >>= f) := by
  cases r with
  | ok a => exact hf a (hr a rfl)
  | error e => exact error e

/-- Nothing has to be known of the first result. -/
theorem of_bind {f : α → Except EvalError β} (hf : ∀ a, Gives Q (f a)) (r : Except EvalError α) :
    Gives Q (r >>= f) :=
  bind (P := fun _ => True) (fun _ _ => trivial) fun a _ => hf a

theorem foldlM {f : β → α → Except EvalError β} (hf : ∀ b a, Q b → Gives Q (f b a)) {b : β}
    (hb : Q b) (as : List α) : Gives Q (as.foldlM f b) := by
  induction as generalizing b with
  | nil => exact ok hb
  | cons a as ih =>
    rw [List.foldlM_cons]
    exact (hf b a hb).bind fun _ hc => ih hc

end Gives

/-- A repeated text has no quote that the text has not. -/
theorem Text.gives_repeat? {hasRoom : Nat → Bool} {t : Text} (ht : '"' ∉ t) (count : Int64) :
    Gives (fun u => '"' ∉ u) (t.repeat? hasRoom count) := by
  intro u hu hmem
  rw [eq_times_of_repeat? hu] at hmem
  obtain ⟨part, hpart, hquote⟩ := List.mem_flatten.mp hmem
  rw [(List.mem_replicate.mp hpart).2] at hquote
  exact ht hquote

namespace Builtin

variable {args : List Value}

/-- Arithmetic makes well-formed values of well-formed arguments. -/
theorem gives_arithmetic (hasRoom : Nat → Bool) (op : Arithmetic)
    (hargs : ∀ v ∈ args, v.WellFormed) : Gives Value.WellFormed (op.apply hasRoom args) := by
  unfold Arithmetic.apply
  split
  · split
    · exact Gives.of_bind (fun ns => Gives.of_bind (fun n => .ok (.int n)) _) _
    · exact Gives.of_bind (fun xs => Gives.of_bind (fun x => .ok (.float x)) _) _
    · rename_i t
      cases hargs (.string t) List.mem_cons_self with
      | string ht =>
        refine Gives.of_bind (fun counts => ?_) _
        exact (Gives.foldlM (fun u count hu => Text.gives_repeat? hu count) ht counts).bind
          fun u hu => .ok (.string hu)
    · exact .error _
  · exact .error _

theorem gives_comparison (rel : Comparison) : Gives Value.WellFormed (rel.apply args) := by
  unfold Comparison.apply
  split
  · split
    · exact Gives.of_bind (fun ns => .ok (.bool _)) _
    · exact Gives.of_bind (fun xs => .ok (.bool _)) _
    · exact .error _
  · exact .error _

theorem gives_appendTo (hargs : ∀ v ∈ args, v.WellFormed) :
    Gives Value.WellFormed (appendTo args) := by
  unfold appendTo
  split
  · rename_i first second rest
    obtain ⟨hfirst, hrest⟩ := List.forall_mem_cons.mp hargs
    split
    · rename_i elements
      cases hfirst with
      | list helements => exact .ok (.list (List.forall_mem_append.mpr ⟨helements, hrest⟩))
    · exact .error _
  · exact .error _

end Builtin

/-- A vector is made of values of one kind only. -/
theorem gives_uniform {vs : List Value} (hvs : ∀ v ∈ vs, v.WellFormed) :
    Gives (fun us => (Value.vector us).WellFormed) (uniform vs) := by
  cases vs with
  | nil => exact .ok (.vector .int nofun nofun)
  | cons first rest =>
    unfold uniform
    dsimp only
    split
    · rename_i hfind
      refine .ok (.vector first.kind ?_ hvs)
      intro v hv
      obtain ⟨i, hi⟩ := List.mem_iff_getElem?.mp hv
      have hsame := List.find?_eq_none.mp hfind (v, i) (List.mem_zipIdx_iff_getElem?.mpr hi)
      simpa using hsame
    · exact .error _

namespace Action

variable {α β : Type} {P : α → Prop} {Q : β → Prop}

/-- However it ends, the action leaves well-formed variables as well formed, and what it answers has
the property. -/
def Keeps (P : α → Prop) (x : Action α) : Prop :=
  ∀ s : Session, s.env.WellFormed → (x.run s).2.env.WellFormed ∧ Gives P (x.run s).1

namespace Keeps

theorem bind {x : Action α} {f : α → Action β} (hx : x.Keeps P) (hf : ∀ a, P a → (f a).Keeps Q) :
    (x >>= f).Keeps Q := by
  intro s hs
  obtain ⟨henv, hgives⟩ := hx s hs
  rw [run_bind]
  generalize x.run s = r at henv hgives ⊢
  obtain ⟨e | a, s₁⟩ := r
  · exact ⟨henv, .error e⟩
  · exact hf a (hgives a rfl) s₁ henv

theorem ofExcept {r : Except EvalError α} (hr : Gives P r) : (ofExcept r).Keeps P :=
  fun _ hs => ⟨hs, hr⟩

theorem lookup (name : Text) : (lookup name).Keeps Value.WellFormed := by
  intro s hs
  rw [run_lookup]
  cases hget : s.env.get? name with
  | none => exact ⟨hs, .error _⟩
  | some v => exact ⟨hs, .ok (hs.get? hget)⟩

theorem define {b : Binding} (hb : b.WellFormed) :
    (define b.name b.value b.doc).Keeps fun _ => True := by
  intro s hs
  rw [run_define]
  cases hdefine : s.env.define? b with
  | none => exact ⟨hs, .error _⟩
  | some env => exact ⟨hs.define? hb hdefine, .ok trivial⟩

theorem writeLine (line : Text) : (writeLine line).Keeps fun _ => True := by
  intro s hs
  obtain ⟨out, h | h⟩ := run_writeLine_cases line s
  · rw [h]
    exact ⟨hs, .ok trivial⟩
  · rw [h]
    exact ⟨hs, .error _⟩

theorem value {v : Value} (hv : v.WellFormed) :
    (Action.ofExcept (.ok (some v))).Keeps WellFormedAnswer :=
  ofExcept (.ok fun _ hmem => Option.mem_some_iff.mp hmem ▸ hv)

theorem noValue : (Action.ofExcept (.ok none)).Keeps WellFormedAnswer :=
  ofExcept (.ok nofun)

/-- Functions make well-formed values of well-formed values. -/
theorem call (hasRoom : Nat → Bool) (f : Builtin) {vs : List Value}
    (hvs : ∀ v ∈ vs, v.WellFormed) : (f.call hasRoom vs).Keeps WellFormedAnswer := by
  cases f with
  | arithmetic op => exact (ofExcept (Builtin.gives_arithmetic hasRoom op hvs)).bind fun _ => value
  | comparison rel => exact (ofExcept (Builtin.gives_comparison rel)).bind fun _ => value
  | append => exact (ofExcept (Builtin.gives_appendTo hvs)).bind fun _ => value
  | print => exact (writeLine _).bind fun _ _ => noValue

end Keeps

end Action

namespace Expr

open Sexpr.Action (Keeps)

variable {hasRoom : Nat → Bool}

def Spelled (e : Expr) : Prop :=
  ∀ l ∈ e.written, l.Spelled

/-- An expression is written with the lexemes of its children among others. -/
theorem Spelled.of_mem_children {e c : Expr} (h : e.Spelled) (hc : c ∈ e.children) : c.Spelled :=
  fun l hl => h l (mem_written_of_mem_children hc hl)

/-- A definition that was read binds a name to a well-formed binding, given its value. -/
theorem Spelled.binding {keyword : Pos} {name : Located Text} {value : Expr}
    {doc : Option (Located Text)} (h : (defvar keyword name value doc).Spelled) {v : Value}
    (hv : v.WellFormed) : Binding.WellFormed ⟨name.item, v, doc.map Located.item⟩ := by
  have hname : (Lexeme.ident name.item).Spelled := by
    apply h
    cases doc <;> simp [written, pieces]
  refine ⟨hname.1, hname.2, hv, ?_⟩
  intro t ht
  cases doc with
  | none => cases ht
  | some doc =>
    cases ht
    have hdoc : (Lexeme.string doc.item).Spelled := by
      apply h
      simp [written, pieces]
    exact hdoc

theorem keeps_needed (e : Expr) {answer : Option Value} (h : WellFormedAnswer answer) :
    (e.needed answer).Keeps Value.WellFormed := by
  cases answer with
  | none => exact Keeps.ofExcept (.error _)
  | some v => exact Keeps.ofExcept (.ok (h v rfl))

theorem keeps_evalValue {e : Expr} (h : (e.eval hasRoom).Keeps WellFormedAnswer) :
    (e.evalValue hasRoom).Keeps Value.WellFormed :=
  h.bind fun _ hanswer => e.keeps_needed hanswer

theorem keeps_evalAll {es : List Expr} (h : ∀ e ∈ es, (e.eval hasRoom).Keeps WellFormedAnswer) :
    (evalAll hasRoom es).Keeps fun vs => ∀ v ∈ vs, v.WellFormed := by
  induction es with
  | nil => exact Keeps.ofExcept (.ok nofun)
  | cons e es ih =>
    obtain ⟨he, hes⟩ := List.forall_mem_cons.mp h
    rw [evalAll_cons]
    apply (keeps_evalValue he).bind
    intro v hv
    apply (ih hes).bind
    intro vs hvs
    exact Keeps.ofExcept (.ok (List.forall_mem_cons.mpr ⟨hv, hvs⟩))

/-- Evaluation keeps the variables well formed and answers well-formed values only. -/
theorem keeps_eval (e : Expr) (h : e.Spelled) : (e.eval hasRoom).Keeps WellFormedAnswer := by
  -- the parts are spelled as the whole is, so each form owes only what it makes of their values
  induction e using of_children with | h e ih => ?_
  replace ih := fun c hc => ih c hc (h.of_mem_children hc)
  cases e with
  | integer numeral n => exact Keeps.value (.int n)
  | float numeral x => exact Keeps.value (.float x)
  | string body =>
    have hbody : (Lexeme.string body.item).Spelled := h _ (List.mem_singleton_self _)
    exact Keeps.value (.string hbody)
  | character c =>
    have hc : (Lexeme.character c.item).Spelled := h _ (List.mem_singleton_self _)
    exact Keeps.value (.character hc)
  | ident name =>
    rw [eval]
    exact (Keeps.lookup name.item).bind fun _ => .value
  | list q elements =>
    rw [eval]
    exact (keeps_evalAll ih).bind fun vs hvs => .value (.list hvs)
  | vector o elements =>
    rw [eval]
    apply (keeps_evalAll ih).bind
    intro vs hvs
    exact (Keeps.ofExcept (gives_uniform hvs)).bind fun _ => .value
  | defvar k name value doc =>
    rw [eval_defvar]
    apply (keeps_evalValue (ih value (List.mem_singleton_self value))).bind
    intro v hv
    exact (Keeps.define (h.binding hv)).bind fun _ _ => .noValue
  | call o callee args =>
    rw [eval]
    cases Builtin.ofName? callee.item with
    | none => exact Keeps.ofExcept (.error _)
    | some f => exact (keeps_evalAll ih).bind fun vs hvs => .call hasRoom f hvs

end Expr

variable {hasRoom : Nat → Bool}

theorem Program.keeps_eval {p : Program} (h : ∀ e ∈ p, e.Spelled) :
    (p.eval hasRoom).Keeps WellFormedAnswer := by
  suffices hfold : ∀ last : Option Value, WellFormedAnswer last →
      Action.Keeps WellFormedAnswer (p.foldlM (fun _ e => e.eval hasRoom) last) from hfold none nofun
  induction p with
  | nil => exact fun last hlast => .ofExcept (.ok hlast)
  | cons e p ih =>
    intro last _
    obtain ⟨he, hp⟩ := List.forall_mem_cons.mp h
    rw [List.foldlM_cons]
    exact (e.keeps_eval he).bind (ih hp)

namespace Session

/-- Running a source keeps the variables well formed, and its answer is well formed. -/
theorem wellFormed_run {s : Session} (hs : s.env.WellFormed) (source : Text) :
    (s.run hasRoom source).2.env.WellFormed ∧
      ∀ v, (s.run hasRoom source).1 = .ok (some v) → v.WellFormed := by
  rw [run]
  cases hp : Program.parse source with
  | error e =>
    refine ⟨hs, ?_⟩
    intro v hv
    cases hv
  | ok p =>
    have hspelled : ∀ e ∈ p, e.Spelled := fun e he l hl =>
      (lexemes_of_parse hp).2 l (List.mem_flatMap.mpr ⟨e, he, hl⟩)
    obtain ⟨henv, hgives⟩ := Program.keeps_eval hspelled s hs
    dsimp only
    generalize (p.eval hasRoom).run s = r at henv hgives ⊢
    obtain ⟨e | answer, s'⟩ := r
    · refine ⟨henv, ?_⟩
      intro v hv
      cases hv
    · refine ⟨henv, ?_⟩
      intro v hv
      cases hv
      exact hgives _ rfl v rfl

def afterRuns (hasRoom : Nat → Bool) (s : Session) (runs : List (Output × Text)) : Session :=
  runs.foldl (fun s x => (run hasRoom { s with out := x.1 } x.2).2) s

/-- Runs keep the variables well formed, whatever their output and however they end. -/
theorem wellFormed_afterRuns {s : Session} (hs : s.env.WellFormed) (runs : List (Output × Text)) :
    (s.afterRuns hasRoom runs).env.WellFormed := by
  induction runs generalizing s with
  | nil => exact hs
  | cons x runs ih => exact ih (wellFormed_run (s := { s with out := x.1 }) hs x.2).1

end Session

/-- Whatever is run in a session that began with nothing, and whether or not it succeeds, all that the
session has bound is well formed, and so is all that it answers to a further source. -/
theorem session_values_are_well_formed (hasRoom : Nat → Bool) (runs : List (Output × Text)) :
    let s := Session.start.afterRuns hasRoom runs
    (∀ b ∈ s.env.bindings, b.WellFormed) ∧
      ∀ out source v, (Session.run hasRoom { s with out } source).1 = .ok (some v) →
        v.WellFormed := by
  intro s
  have hs : s.env.WellFormed :=
    Session.wellFormed_afterRuns (fun _ hb => absurd hb List.not_mem_nil) runs
  exact ⟨hs, fun out source => (Session.wellFormed_run (s := { s with out }) hs source).2⟩

/-- The first source fails, after its definition, because its output takes nothing. -/
theorem values_behind_failed_run_are_well_formed :
    let hasRoom := fun _ => true
    let nothing : Output := ⟨[], fun _ _ => 0⟩
    let s := Session.start.afterRuns hasRoom
      [(nothing, "(defvar v ['a' 'b'] \"two\")\n(print v)".toList)]
    let answer := Value.list [.int 1, .string "abab".toList, .vector [.character 'a', .character 'b']]
    s.env.bindings = [⟨['v'], .vector [.character 'a', .character 'b'], some "two".toList⟩] ∧
      (s.run hasRoom "(append '(1) (* \"ab\" 2) v)".toList).1 = .ok (some answer) ∧
      answer.WellFormed ∧ ∀ b ∈ s.env.bindings, b.WellFormed := by
  intro hasRoom nothing s answer
  have hfirst : tokens "(defvar v ['a' 'b'] \"two\")\n(print v)".toList =
      [⟨.leftParen, ⟨0, 0⟩⟩, ⟨.ident Expr.defvarWord, ⟨1, 1⟩⟩, ⟨.ident ['v'], ⟨8, 8⟩⟩,
        ⟨.leftBracket, ⟨10, 10⟩⟩, ⟨.character 'a', ⟨11, 11⟩⟩, ⟨.character 'b', ⟨15, 15⟩⟩,
        ⟨.rightBracket, ⟨18, 18⟩⟩, ⟨.string "two".toList, ⟨20, 20⟩⟩, ⟨.rightParen, ⟨25, 25⟩⟩,
        ⟨.leftParen, ⟨27, 27⟩⟩, ⟨.ident Builtin.print.name, ⟨28, 28⟩⟩, ⟨.ident ['v'], ⟨34, 34⟩⟩,
        ⟨.rightParen, ⟨35, 35⟩⟩, ⟨.endOfInput, ⟨36, 36⟩⟩] := by
    decide +kernel
  have hsecond : tokens "(append '(1) (* \"ab\" 2) v)".toList =
      [⟨.leftParen, ⟨0, 0⟩⟩, ⟨.ident Builtin.append.name, ⟨1, 1⟩⟩, ⟨.quote, ⟨8, 8⟩⟩,
        ⟨.leftParen, ⟨9, 9⟩⟩, ⟨.integer ['1'], ⟨10, 10⟩⟩, ⟨.rightParen, ⟨11, 11⟩⟩,
        ⟨.leftParen, ⟨13, 13⟩⟩, ⟨.ident ['*'], ⟨14, 14⟩⟩, ⟨.string "ab".toList, ⟨16, 16⟩⟩,
        ⟨.integer ['2'], ⟨21, 21⟩⟩, ⟨.rightParen, ⟨22, 22⟩⟩, ⟨.ident ['v'], ⟨24, 24⟩⟩,
        ⟨.rightParen, ⟨25, 25⟩⟩, ⟨.endOfInput, ⟨26, 26⟩⟩] := by
    decide +kernel
  have hs : s = ⟨⟨[⟨['v'], .vector [.character 'a', .character 'b'], some "two".toList⟩],
      List.nodup_singleton _⟩,
      nothing.hand (Builtin.printed [.vector [.character 'a', .character 'b']])⟩ := by
    change (Session.run hasRoom { Session.start with out := nothing } _).2 = _
    rw [Session.run, Program.parse, hfirst]
    rfl
  have hanswer : (s.run hasRoom "(append '(1) (* \"ab\" 2) v)".toList).1 = .ok (some answer) := by
    rw [hs, Session.run, Program.parse, hsecond]
    rfl
  obtain ⟨hbindings, hvalues⟩ := session_values_are_well_formed hasRoom
    [(nothing, "(defvar v ['a' 'b'] \"two\")\n(print v)".toList)]
  exact ⟨congrArg (·.env.bindings) hs, hanswer, hvalues s.out _ _ hanswer, hbindings⟩

end Sexpr
