import Sexpr.Run
import Sexpr.Proofs.Rendering

/-! Running does not look at places. An expression evaluates alike wherever it was read, and the text
that a rejection quotes and the wording of a syntax error are the same as well. So sources with the
same lexemes run alike in every session. -/
namespace Sexpr

namespace Expr

variable {hasRoom : Nat → Bool} (f : Pos → Pos)

theorem text_mapPos (e : Expr) : (e.mapPos f).text = e.text :=
  congrArg Phrase.text (phrase_mapPos f e)

theorem needed_mapPos (e : Expr) (answer : Option Value) :
    (e.mapPos f).needed answer = e.needed answer := by
  cases answer with
  | some v => rfl
  | none => rw [needed, needed, text_mapPos]

theorem evalAll_mapPosAll {es : List Expr}
    (h : ∀ e ∈ es, (e.mapPos f).eval hasRoom = e.eval hasRoom) :
    evalAll hasRoom (mapPosAll f es) = evalAll hasRoom es := by
  induction es with
  | nil => rfl
  | cons e es ih =>
    have hneeded : needed (e.mapPos f) = needed e := funext (needed_mapPos f e)
    have htail := ih fun d hd => h d (List.mem_cons_of_mem e hd)
    rw [mapPosAll, evalAll, evalAll, h e List.mem_cons_self, htail, hneeded]

/-- An expression is evaluated alike wherever it was read. -/
theorem eval_mapPos (e : Expr) : (e.mapPos f).eval hasRoom = e.eval hasRoom := by
  induction e using of_children with | h e ih => ?_
  cases e with
  | call o callee args =>
    have hargs : evalAll hasRoom (mapPosAll f args) = evalAll hasRoom args :=
      evalAll_mapPosAll f ih
    rw [mapPos, eval, eval, hargs]
    rfl
  | list q elements =>
    have helements : evalAll hasRoom (mapPosAll f elements) = evalAll hasRoom elements :=
      evalAll_mapPosAll f ih
    rw [mapPos, eval, eval, helements]
  | vector o elements =>
    have helements : evalAll hasRoom (mapPosAll f elements) = evalAll hasRoom elements :=
      evalAll_mapPosAll f ih
    rw [mapPos, eval, eval, helements]
  | defvar k name value doc =>
    have hvalue := ih value (List.mem_singleton_self value)
    have hneeded : needed (value.mapPos f) = needed value := funext (needed_mapPos f value)
    have hdoc : (doc.map (Located.mapPos f)).map Located.item = doc.map Located.item := by
      cases doc <;> rfl
    rw [mapPos, eval, eval, hvalue, hneeded, hdoc]
    rfl
  | _ => rfl

end Expr

variable {hasRoom : Nat → Bool}

theorem Program.eval_map_mapPos (f : Pos → Pos) (p : Program) :
    Program.eval hasRoom (p.map (Expr.mapPos f)) = p.eval hasRoom := by
  have hstep : (fun (_ : Option Value) e => (Expr.mapPos f e).eval hasRoom) =
      fun _ e => e.eval hasRoom :=
    funext fun _ => funext (Expr.eval_mapPos f)
  rw [Program.eval, List.foldlM_map, hstep, Program.eval]

/-- Programs that are equal up to places are evaluated alike. -/
theorem Program.eval_congr {p q : Program} (h : q.map Expr.unplaced = p.map Expr.unplaced) :
    q.eval hasRoom = p.eval hasRoom := by
  rw [← eval_map_mapPos (fun _ => ⟨0, 0⟩) q, ← eval_map_mapPos (fun _ => ⟨0, 0⟩) p]
  exact congrArg (Program.eval hasRoom) h

def SyntaxError.unplaced (e : SyntaxError) : SyntaxError :=
  e.mapPos fun _ => ⟨0, 0⟩

/-- Errors that differ in places only are worded alike. -/
theorem SyntaxError.wording_congr {d e : SyntaxError} (h : d.unplaced = e.unplaced) :
    d.message = e.message ∧ d.code = e.code ∧ d.help = e.help := by
  have hforget (e : SyntaxError) : e.unplaced.message = e.message ∧ e.unplaced.code = e.code ∧
      e.unplaced.help = e.help := by
    cases e <;> exact ⟨rfl, rfl, rfl⟩
  have hd := hforget d
  rw [h] at hd
  obtain ⟨hmessage, hcode, hhelp⟩ := hforget e
  exact ⟨hd.1.symm.trans hmessage, hd.2.1.symm.trans hcode, hd.2.2.symm.trans hhelp⟩

def Failure.unplaced : Failure → Failure
  | reading e => reading e.unplaced
  | evaluating e => evaluating e

/-- Of one kind, about the same things and worded alike, whatever sources the two are shown with. -/
def Failure.Alike (x y : Failure) : Prop :=
  x.unplaced = y.unplaced ∧ ∀ a b : Source,
    (x.diagnostic a).message = (y.diagnostic b).message ∧
      (x.diagnostic a).code = (y.diagnostic b).code ∧ (x.diagnostic a).help = (y.diagnostic b).help

theorem Failure.alike_reading {d e : SyntaxError} (h : d.unplaced = e.unplaced) :
    Alike (reading d) (reading e) :=
  ⟨congrArg reading h, fun _ _ => SyntaxError.wording_congr h⟩

theorem Failure.alike_evaluating (e : EvalError) : Alike (evaluating e) (evaluating e) :=
  ⟨rfl, fun _ _ => ⟨rfl, rfl, rfl⟩⟩

def Session.Answer.Alike : Session.Answer → Session.Answer → Prop
  | .ok a, .ok b => a = b
  | .error x, .error y => x.Alike y
  | _, _ => False

theorem Session.Answer.alike_evaluated (r : Except EvalError (Option Value)) :
    Session.Answer.Alike (r.mapError .evaluating) (r.mapError .evaluating) := by
  cases r with
  | ok a => exact rfl
  | error e => exact Failure.alike_evaluating e

/-- Sources that are parsed alike, up to places, run alike. -/
theorem Session.run_alike {s s' : Text}
    (h : Program.unplaced (Program.parse s) = Program.unplaced (Program.parse s'))
    (session : Session) :
    (session.run hasRoom s).2 = (session.run hasRoom s').2 ∧
      (session.run hasRoom s).1.Alike (session.run hasRoom s').1 := by
  unfold Session.run
  cases hs : Program.parse s with
  | error d =>
    cases hs' : Program.parse s' with
    | error e =>
      rw [hs, hs'] at h
      exact ⟨rfl, Failure.alike_reading (Except.error.inj h)⟩
    | ok q =>
      rw [hs, hs'] at h
      cases h
  | ok p =>
    cases hs' : Program.parse s' with
    | error e =>
      rw [hs, hs'] at h
      cases h
    | ok q =>
      rw [hs, hs'] at h
      have heval : p.eval hasRoom = q.eval hasRoom := Program.eval_congr (Except.ok.inj h)
      dsimp only
      rw [heval]
      exact ⟨rfl, Session.Answer.alike_evaluated _⟩

end Sexpr
