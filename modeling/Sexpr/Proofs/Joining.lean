import Sexpr.Proofs.EarliestError
import Sexpr.Proofs.Running

/-! Sources joined by newlines. A source that parses leaves no form and no string open, so what comes
on the lines below is scanned and read as if it stood alone, and all that evaluation hands on is the
session. Main statement: running the joined text is running the sources one after another. -/
namespace Sexpr

namespace Session

/-- Runs sources one after another, up to the first that fails, and collects their answers. -/
def runEach (hasRoom : Nat → Bool) (s : Session) :
    List Text → Except Failure (List (Option Value)) × Session
  | [] => (.ok [], s)
  | source :: sources =>
    match s.run hasRoom source with
    | (.error e, s') => (.error e, s')
    | (.ok answer, s') =>
      let (answers, s'') := runEach hasRoom s' sources
      ((answer :: ·) <$> answers, s'')

end Session

def hasStatement (source : Text) : Bool :=
  match Program.parse source with
  | .ok p => !p.isEmpty
  | .error _ => false

/-- Of the answers that sources gave, the one of the last source with a statement; without such a
source a given answer. -/
def lastAnswer (default : Option Value) (sources : List Text) (answers : List (Option Value)) :
    Option Value :=
  ((sources.zip answers).filter fun x => hasStatement x.1).getLast?.elim default Prod.snd

namespace Program

/-- Behind the tokens of a program, reading starts anew. -/
theorem ofTokens_append_of_ok {stop : Pos} {ts : List Token} (hts : ∀ t ∈ ts, t.isEnd = false)
    {p : Program} (h : ofTokens stop .start ts = .ok p) (stop' : Pos) (rest : List Token) :
    ofTokens stop' .start (ts ++ rest) = (p ++ ·) <$> ofTokens stop' .start rest := by
  obtain ⟨es, hes⟩ := ofTokens_append_of_after? (after?_of_ofTokens hts h)
  have hp : ofTokens stop .start ts = .ok (es ++ []) := by
    have hnil := hes stop []
    rw [List.append_nil] at hnil
    exact hnil
  rw [h, List.append_nil] at hp
  rw [hes, Except.ok.inj hp]

/-- What stands behind a blank is read as if the program in front of it were not there. -/
theorem parse_append_blank {source : Text} {p : Program} (h : parse source = .ok p) {w : Char}
    (hw : Text.isBlank w = true) (rest : Text) :
    unplaced (parse (source ++ w :: rest)) = unplaced ((p ++ ·) <$> parse rest) := by
  have hend := isEnd_of_mem_tokensBeforeEnd source
  obtain ⟨pos, -, hparse⟩ := parse_eq_ofTokens source
  rw [hparse] at h
  have hplain := Reader.plain_of_after? (after?_of_ofTokens hend h)
  have hclosed : ∀ t ∈ tokensBeforeEnd source, t.item.Closed := fun t ht body => (hplain t ht).2 _
  have hitems : (tokens (source ++ w :: rest)).map Located.item =
      (tokensBeforeEnd source ++ tokens rest).map Located.item := by
    rw [List.map_append]
    exact lexemes_append_blank hclosed hw rest
  rw [parse, ofTokens_unplaced_congr hitems ⟨0, 0⟩ ⟨0, 0⟩, ofTokens_append_of_ok hend h]
  rfl

theorem unplaced_append_congr {x y : Except SyntaxError Program} (h : unplaced x = unplaced y)
    (p : Program) : unplaced ((p ++ ·) <$> x) = unplaced ((p ++ ·) <$> y) := by
  have happend (q : Program) : (p ++ q).map Expr.unplaced = p.map Expr.unplaced ++
      q.map Expr.unplaced := List.map_append
  cases x with
  | error d =>
    cases y with
    | error e => exact h
    | ok q => cases h
  | ok q =>
    cases y with
    | error e => cases h
    | ok r =>
      have hq : q.map Expr.unplaced = r.map Expr.unplaced := Except.ok.inj h
      change Except.ok ((p ++ q).map Expr.unplaced) = Except.ok ((p ++ r).map Expr.unplaced)
      rw [happend, happend, hq]

theorem parse_nil : parse [] = .ok [] := by
  rw [parse, tokens, Scanner.tokens_of_isEnd rfl]
  rfl

/-- Programs on lines of their own are read one after another. -/
theorem parse_joined {sources : List Text} {ps : List Program}
    (h : List.Forall₂ (fun source p => parse source = .ok p) sources ps) :
    unplaced (parse (List.intercalate ['\n'] sources)) = unplaced (.ok ps.flatten) := by
  induction h with
  | nil => exact congrArg unplaced parse_nil
  | @cons source p sources ps hp hps ih =>
    cases sources with
    | nil =>
      cases hps
      have hjoined : List.intercalate ['\n'] [source] = source := by simp [List.intercalate]
      rw [hjoined, hp, List.flatten_cons, List.flatten_nil, List.append_nil]
    | cons source' sources =>
      have hjoined : List.intercalate ['\n'] (source :: source' :: sources) =
          source ++ '\n' :: List.intercalate ['\n'] (source' :: sources) := by
        simp [List.intercalate]
      calc unplaced (parse (List.intercalate ['\n'] (source :: source' :: sources)))
          = unplaced ((p ++ ·) <$> parse (List.intercalate ['\n'] (source' :: sources))) := by
            rw [hjoined, parse_append_blank hp (by decide)]
        _ = unplaced ((p ++ ·) <$> .ok ps.flatten) := unplaced_append_congr ih p
        _ = unplaced (.ok (p :: ps).flatten) := by
            rw [List.flatten_cons]
            rfl

end Program

variable {hasRoom : Nat → Bool}

/-- The answer before a statement is forgotten, so a program without statements hands on the one in
front of it and every other program its own. -/
theorem run_foldlM_eval (last : Option Value) (p : Program) (s : Session) :
    Action.run (p.foldlM (fun _ e => e.eval hasRoom) last) s =
      (((p.eval hasRoom).run s).1.map fun answer => if p.isEmpty then last else answer,
        ((p.eval hasRoom).run s).2) := by
  cases p with
  | nil => rfl
  | cons e p =>
    rw [Program.eval, List.foldlM_cons, List.foldlM_cons]
    generalize Action.run _ s = r
    obtain ⟨_ | _, _⟩ := r <;> rfl

/-- A source with a statement replaces the answer of those in front of it. -/
theorem lastAnswer_cons (default answer : Option Value) (source : Text) (sources : List Text)
    (answers : List (Option Value)) :
    lastAnswer default (source :: sources) (answer :: answers) =
      lastAnswer (if hasStatement source then answer else default) sources answers := by
  rw [lastAnswer, lastAnswer, List.zip_cons_cons, List.filter_cons]
  cases hasStatement source with
  | false => rfl
  | true =>
    simp only [if_true, List.getLast?_cons]
    cases ((sources.zip answers).filter fun x => hasStatement x.1).getLast? <;> rfl

/-- Statements are evaluated source by source. -/
theorem run_flatten_eq_runEach {sources : List Text} {ps : List Program}
    (h : List.Forall₂ (fun source p => Program.parse source = .ok p) sources ps)
    (last : Option Value) (s : Session) :
    ((Action.run (ps.flatten.foldlM (fun _ e => e.eval hasRoom) last) s).1.mapError
        Failure.evaluating, (Action.run (ps.flatten.foldlM (fun _ e => e.eval hasRoom) last) s).2) =
      ((s.runEach hasRoom sources).1.map (lastAnswer last sources), (s.runEach hasRoom sources).2) := by
  induction h generalizing last s with
  | nil => rfl
  | @cons source p sources ps hp hps ih =>
    have hrun : s.run hasRoom source =
        (((p.eval hasRoom).run s).1.mapError .evaluating, ((p.eval hasRoom).run s).2) := by
      rw [Session.run, hp]
    have hstatement : hasStatement source = !p.isEmpty := by
      rw [hasStatement, hp]
    rw [List.flatten_cons, List.foldlM_append, Action.run_bind, run_foldlM_eval, Session.runEach,
      hrun]
    obtain ⟨e | answer, s'⟩ := (p.eval hasRoom).run s
    · rfl
    · have hlast (r : Except Failure (List (Option Value))) :
          ((answer :: ·) <$> r).map (lastAnswer last (source :: sources)) =
            r.map (lastAnswer (if p.isEmpty then last else answer) sources) := by
        cases r with
        | error e => rfl
        | ok answers =>
          change Except.ok _ = Except.ok _
          rw [lastAnswer_cons, hstatement]
          cases p.isEmpty <;> rfl
      have ih' := ih (if p.isEmpty then last else answer) s'
      rw [← hlast] at ih'
      exact ih'

theorem exists_programs {sources : List Text}
    (h : ∀ source ∈ sources, ∃ p, Program.parse source = .ok p) :
    ∃ ps, List.Forall₂ (fun source p => Program.parse source = .ok p) sources ps := by
  induction sources with
  | nil => exact ⟨[], .nil⟩
  | cons source sources ih =>
    obtain ⟨p, hp⟩ := h source List.mem_cons_self
    obtain ⟨ps, hps⟩ := ih fun t ht => h t (List.mem_cons_of_mem source ht)
    exact ⟨p :: ps, .cons hp hps⟩

/-- Splitting a script into sources changes nothing: what the joined text does to a session, and how
it ends, is what the sources do one after another, with the answer of the last one that has a
statement. -/
theorem joined_sources_run_one_after_another (hasRoom : Nat → Bool) {sources : List Text}
    (h : ∀ source ∈ sources, ∃ p, Program.parse source = .ok p) (s : Session) :
    s.run hasRoom (List.intercalate ['\n'] sources) =
      ((s.runEach hasRoom sources).1.map (lastAnswer none sources), (s.runEach hasRoom sources).2) := by
  obtain ⟨ps, hps⟩ := exists_programs h
  have hparse := Program.parse_joined hps
  rw [← run_flatten_eq_runEach hps none s]
  cases hq : Program.parse (List.intercalate ['\n'] sources) with
  | error e =>
    rw [hq] at hparse
    cases hparse
  | ok q =>
    rw [hq] at hparse
    have heval : q.eval hasRoom = Program.eval hasRoom ps.flatten :=
      Program.eval_congr (Except.ok.inj hparse)
    rw [Session.run, hq]
    dsimp only
    rw [heval]
    rfl

/-- The source in the middle is empty, so its answer does not count. -/
theorem split_script_with_an_empty_source_runs_whole :
    let hasRoom := fun _ => true
    (∀ source ∈ ["(defvar x 'a')".toList, [], "(print x)\nx".toList],
        ∃ p, Program.parse source = .ok p) ∧
      Session.start.run hasRoom "(defvar x 'a')\n\n(print x)\nx".toList =
        ((Session.start.runEach hasRoom ["(defvar x 'a')".toList, [], "(print x)\nx".toList]).1.map
            (lastAnswer none ["(defvar x 'a')".toList, [], "(print x)\nx".toList]),
          (Session.start.runEach hasRoom ["(defvar x 'a')".toList, [], "(print x)\nx".toList]).2) := by
  intro hasRoom
  have htokens : tokens "(defvar x 'a')".toList =
      [⟨.leftParen, ⟨0, 0⟩⟩, ⟨.ident Expr.defvarWord, ⟨1, 1⟩⟩, ⟨.ident ['x'], ⟨8, 8⟩⟩,
        ⟨.character 'a', ⟨10, 10⟩⟩, ⟨.rightParen, ⟨13, 13⟩⟩, ⟨.endOfInput, ⟨14, 14⟩⟩] := by
    decide +kernel
  have htokens' : tokens "(print x)\nx".toList =
      [⟨.leftParen, ⟨0, 0⟩⟩, ⟨.ident Builtin.print.name, ⟨1, 1⟩⟩, ⟨.ident ['x'], ⟨7, 7⟩⟩,
        ⟨.rightParen, ⟨8, 8⟩⟩, ⟨.ident ['x'], ⟨10, 10⟩⟩, ⟨.endOfInput, ⟨11, 11⟩⟩] := by
    decide +kernel
  have h : ∀ source ∈ ["(defvar x 'a')".toList, [], "(print x)\nx".toList],
      ∃ p, Program.parse source = .ok p := by
    intro source hsource
    simp only [List.mem_cons, List.not_mem_nil, or_false] at hsource
    rcases hsource with rfl | rfl | rfl
    · exact ⟨_, by rw [Program.parse, htokens]; rfl⟩
    · exact ⟨_, Program.parse_nil⟩
    · exact ⟨_, by rw [Program.parse, htokens']; rfl⟩
  exact ⟨h, joined_sources_run_one_after_another hasRoom h Session.start⟩

end Sexpr
