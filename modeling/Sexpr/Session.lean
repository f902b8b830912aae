import Sexpr.Env
import Sexpr.EvalError
import Sexpr.Output

/-!
Sessions: the variables bound so far and the stream that is printed to. An action on a session
answers or fails, and in both cases leaves the session in the state that it has reached.
-/

namespace Sexpr

structure Session where
  env : Env
  out : Output

def Session.start : Session := ⟨.empty, .unlimited⟩

def Action (α : Type) : Type :=
  Session → Except EvalError α × Session

namespace Action

def run {α : Type} (x : Action α) (s : Session) : Except EvalError α × Session :=
  x s

instance : Monad Action where
  pure a := fun s => (.ok a, s)
  bind x f := fun s =>
    match x s with
    | (.ok a, s') => f a s'
    | (.error e, s') => (.error e, s')

theorem run_bind {α β : Type} (x : Action α) (f : α → Action β) (s : Session) :
    (x >>= f).run s =
      match x.run s with
      | (.ok a, s') => (f a).run s'
      | (.error e, s') => (.error e, s') := rfl

theorem run_bind_eq_ok_iff {α β : Type} {x : Action α} {f : α → Action β} {s s' : Session} {b : β} :
    (x >>= f).run s = (.ok b, s') ↔
      ∃ a s₁, x.run s = (.ok a, s₁) ∧ (f a).run s₁ = (.ok b, s') := by
  rw [run_bind]
  rcases x.run s with ⟨e | a, s₁⟩
  · simp
  · constructor
    · exact fun h => ⟨a, s₁, rfl, h⟩
    · rintro ⟨_, _, heq, h⟩
      cases heq
      exact h

/-- Two actions fail as the first does, or as the second does in the session behind the first. -/
theorem run_bind_eq_error_iff {α β : Type} {x : Action α} {f : α → Action β} {s s' : Session}
    {e : EvalError} :
    (x >>= f).run s = (.error e, s') ↔ x.run s = (.error e, s') ∨
      ∃ a s₁, x.run s = (.ok a, s₁) ∧ (f a).run s₁ = (.error e, s') := by
  rw [run_bind]
  rcases x.run s with ⟨d | a, s₁⟩
  · simp
  · constructor
    · exact fun h => .inr ⟨a, s₁, rfl, h⟩
    · rintro (heq | ⟨_, _, heq, h⟩)
      · cases heq
      · cases heq
        exact h

instance : LawfulMonad Action :=
  LawfulMonad.mk' Action
    (fun x => funext fun s => by
      rcases h : x s with ⟨_ | _, _⟩
      · simp [Functor.map, h]
      · simp [Functor.map, h]
        rfl)
    (fun _ _ => rfl)
    (fun x f g => funext fun s => by
      rcases h : x s with ⟨_ | _, _⟩ <;> simp [bind, h])

def fail {α : Type} (e : EvalError) : Action α :=
  fun s => (.error e, s)

def ofExcept {α : Type} (r : Except EvalError α) : Action α :=
  fun s => (r, s)

def lookup (name : Text) : Action Value :=
  fun s =>
    match s.env.get? name with
    | some v => (.ok v, s)
    | none => (.error (.undefined name), s)

def define (name : Text) (value : Value) (doc : Option Text) : Action Unit :=
  fun s =>
    match s.env.define? ⟨name, value, doc⟩ with
    | some env => (.ok (), { s with env })
    | none => (.error (.redefinition name), s)

/-- The stream has been given the text also where it refuses it. -/
def write (t : Text) : Action Unit :=
  fun s =>
    (if s.out.takesWhole t then .ok () else .error .output, { s with out := s.out.hand t })

/-- A line and its end are written one after the other, so a stream may take only the line. -/
def writeLine (line : Text) : Action Unit := do
  write line
  write ['\n']

theorem run_lookup (name : Text) (s : Session) :
    (lookup name).run s =
      match s.env.get? name with
      | some v => (.ok v, s)
      | none => (.error (.undefined name), s) := rfl

theorem run_define (name : Text) (value : Value) (doc : Option Text) (s : Session) :
    (define name value doc).run s =
      match s.env.define? ⟨name, value, doc⟩ with
      | some env => (.ok (), { s with env })
      | none => (.error (.redefinition name), s) := rfl

/-- Writing changes nothing but the stream, and fails as a refusal of the stream only. -/
theorem run_write_cases (t : Text) (s : Session) :
    ∃ out, (write t).run s = (.ok (), { s with out }) ∨
      (write t).run s = (.error .output, { s with out }) := by
  unfold run write
  split
  · exact ⟨_, .inl rfl⟩
  · exact ⟨_, .inr rfl⟩

theorem run_writeLine_cases (line : Text) (s : Session) :
    ∃ out, (writeLine line).run s = (.ok (), { s with out }) ∨
      (writeLine line).run s = (.error .output, { s with out }) := by
  rw [writeLine, run_bind]
  obtain ⟨out, h | h⟩ := run_write_cases line s
  · rw [h]
    exact run_write_cases ['\n'] { s with out }
  · rw [h]
    exact ⟨out, .inr rfl⟩

end Action

end Sexpr
