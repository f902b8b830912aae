import Sexpr.Parser
import Sexpr.Proofs.Scanning

/-! Places are carried through parsing and decide nothing. Moving the tokens moves the places in the
tree, or in the error, and changes nothing else; so sources with the same lexemes are read alike. -/
namespace Sexpr

def Located.mapPos {α : Type} (f : Pos → Pos) (x : Located α) : Located α :=
  ⟨x.item, f x.pos⟩

namespace Expr

mutual

def mapPos (f : Pos → Pos) : Expr → Expr
  | call opening callee args => call (f opening) (callee.mapPos f) (mapPosAll f args)
  | ident name => ident (name.mapPos f)
  | integer numeral value => integer (numeral.mapPos f) value
  | float numeral value => float (numeral.mapPos f) value
  | string body => string (body.mapPos f)
  | character c => character (c.mapPos f)
  | list quote elements => list (f quote) (mapPosAll f elements)
  | vector opening elements => vector (f opening) (mapPosAll f elements)
  | defvar keyword name value doc =>
    defvar (f keyword) (name.mapPos f) (mapPos f value) (doc.map (Located.mapPos f))

def mapPosAll (f : Pos → Pos) : List Expr → List Expr
  | [] => []
  | e :: es => mapPos f e :: mapPosAll f es

end

theorem mapPosAll_eq_map (f : Pos → Pos) (es : List Expr) : mapPosAll f es = es.map (mapPos f) := by
  induction es with
  | nil => rfl
  | cons e es ih => rw [mapPosAll, ih, List.map_cons]

end Expr

def Frame.mapPos (f : Pos → Pos) : Frame → Frame
  | call opening callee revArgs =>
    call (f opening) (callee.mapPos f) (revArgs.map (Expr.mapPos f))
  | list quote revElements => list (f quote) (revElements.map (Expr.mapPos f))
  | vector opening revElements => vector (f opening) (revElements.map (Expr.mapPos f))
  | defvar keyword name => defvar (f keyword) (name.mapPos f)

def Wanted.mapPos (f : Pos → Pos) : Wanted → Wanted
  | item => item
  | callee opening => callee (f opening)
  | elements quote => elements (f quote)
  | name keyword => name (f keyword)
  | doc keyword n value => doc (f keyword) (n.mapPos f) (value.mapPos f)
  | closing keyword n value d =>
    closing (f keyword) (n.mapPos f) (value.mapPos f) (d.mapPos f)

def Reader.mapPos (f : Pos → Pos) (r : Reader) : Reader :=
  ⟨r.wanted.mapPos f, r.frames.map (Frame.mapPos f)⟩

def SyntaxError.mapPos (f : Pos → Pos) : SyntaxError → SyntaxError
  | illegal fault pos => illegal fault (f pos)
  | unexpected expected found => unexpected expected (found.mapPos f)
  | endOfInput pos => endOfInput (f pos)
  | numberTooLarge numeral => numberTooLarge (numeral.mapPos f)

def Move.mapPos (f : Pos → Pos) : Move → Move
  | more r => more (r.mapPos f)
  | whole e => whole (e.mapPos f)
  | refused e => refused (e.mapPos f)
  | spoiled e => spoiled (e.mapPos f)

def Program.mapPos (f : Pos → Pos) : Except SyntaxError Program → Except SyntaxError Program
  | .ok p => .ok (p.map (Expr.mapPos f))
  | .error e => .error (e.mapPos f)

namespace Reader

variable (f : Pos → Pos)

theorem fill_mapPos (e : Expr) (frames : List Frame) :
    fill (e.mapPos f) (frames.map (Frame.mapPos f)) = (fill e frames).mapPos f := by
  cases frames with
  | nil => rfl
  | cons frame frames => cases frame <;> rfl

theorem begin_mapPos (frames : List Frame) (t : Token) :
    begin (frames.map (Frame.mapPos f)) (t.mapPos f) = (begin frames t).mapPos f := by
  obtain ⟨l, p⟩ := t
  cases l with
  | ident name => exact fill_mapPos f (.ident ⟨name, p⟩) frames
  | integer numeral =>
    change begin _ ⟨.integer numeral, f p⟩ = _
    cases hv : int64? (numeralValue numeral) with
    | none =>
      simp only [begin, hv]
      rfl
    | some value =>
      simp only [begin, hv]
      exact fill_mapPos f (.integer ⟨numeral, p⟩ value) frames
  | float numeral => exact fill_mapPos f (.float ⟨numeral, p⟩ _) frames
  | string body => exact fill_mapPos f (.string ⟨body, p⟩) frames
  | character c => exact fill_mapPos f (.character ⟨c, p⟩) frames
  | _ => rfl

theorem item_mapPos (frames : List Frame) (t : Token) :
    item (frames.map (Frame.mapPos f)) (t.mapPos f) = (item frames t).mapPos f := by
  have hreverse (es : List Expr) :
      (es.map (Expr.mapPos f)).reverse = Expr.mapPosAll f es.reverse := by
    rw [Expr.mapPosAll_eq_map, List.map_reverse]
  obtain ⟨l, p⟩ := t
  have hbegin := begin_mapPos f frames ⟨l, p⟩
  cases l with
  | rightParen =>
    cases frames with
    | nil => rfl
    | cons frame rest =>
      cases frame with
      | call o callee revArgs =>
        have h := fill_mapPos f (.call o callee revArgs.reverse) rest
        rw [Expr.mapPos, ← hreverse] at h
        exact h
      | list q revElements =>
        have h := fill_mapPos f (.list q revElements.reverse) rest
        rw [Expr.mapPos, ← hreverse] at h
        exact h
      | _ => rfl
  | rightBracket =>
    cases frames with
    | nil => rfl
    | cons frame rest =>
      cases frame with
      | vector o revElements =>
        have h := fill_mapPos f (.vector o revElements.reverse) rest
        rw [Expr.mapPos, ← hreverse] at h
        exact h
      | _ => rfl
  | _ => exact hbegin

/-- A step does not look at places. -/
theorem step_mapPos (r : Reader) (t : Token) :
    (r.mapPos f).step (t.mapPos f) = (r.step t).mapPos f := by
  obtain ⟨wanted, frames⟩ := r
  obtain ⟨l, p⟩ := t
  cases wanted with
  | item => exact item_mapPos f frames ⟨l, p⟩
  | callee o =>
    cases l with
    | ident name =>
      change step ⟨.callee (f o), _⟩ ⟨.ident name, f p⟩ = _
      by_cases hname : name = Expr.defvarWord
      · simp only [step, if_pos hname]
        rfl
      · simp only [step, if_neg hname]
        rfl
    | _ => rfl
  | doc keyword n value =>
    cases l with
    | rightParen => exact fill_mapPos f (.defvar keyword n value none) frames
    | _ => rfl
  | closing keyword n value d =>
    cases l with
    | rightParen => exact fill_mapPos f (.defvar keyword n value (some d)) frames
    | _ => rfl
  | _ => cases l <;> rfl

end Reader

namespace Program

theorem isStart_mapPos (f : Pos → Pos) (r : Reader) : (r.mapPos f).isStart = r.isStart := by
  obtain ⟨wanted, frames⟩ := r
  cases wanted <;> cases frames <;> rfl

/-- Tokens that are moved are read as the program that is moved. -/
theorem ofTokens_mapPos (f : Pos → Pos) (stop : Pos) (r : Reader) (ts : List Token) :
    ofTokens (f stop) (r.mapPos f) (ts.map (Located.mapPos f)) = mapPos f (ofTokens stop r ts) := by
  induction ts generalizing r with
  | nil =>
    rw [List.map_nil, ofTokens, ofTokens, isStart_mapPos]
    cases r.isStart <;> rfl
  | cons t ts ih =>
    have hend : Token.isEnd (t.mapPos f) = t.isEnd := rfl
    rw [List.map_cons, ofTokens, ofTokens, hend, isStart_mapPos, Reader.step_mapPos]
    cases hstop : (t.isEnd && r.isStart) with
    | true => rfl
    | false =>
      cases r.step t with
      | more r => exact ih r
      | whole e =>
        have ih' : ofTokens (f stop) .start (ts.map (Located.mapPos f)) = _ := ih .start
        change (e.mapPos f :: ·) <$> ofTokens (f stop) .start _ =
          mapPos f ((e :: ·) <$> ofTokens stop .start ts)
        rw [ih']
        cases ofTokens stop .start ts <;> rfl
      | refused e => rfl
      | spoiled e => rfl

end Program

def Expr.unplaced (e : Expr) : Expr :=
  e.mapPos fun _ => ⟨0, 0⟩

def Program.unplaced (x : Except SyntaxError Program) : Except SyntaxError Program :=
  Program.mapPos (fun _ => ⟨0, 0⟩) x

/-- Tokens with the same lexemes are read alike, up to places. -/
theorem ofTokens_unplaced_congr {ts us : List Token}
    (h : ts.map Located.item = us.map Located.item) (stop stop' : Pos) :
    Program.unplaced (Program.ofTokens stop .start ts) =
      Program.unplaced (Program.ofTokens stop' .start us) := by
  have hforget (vs : List Token) : vs.map (Located.mapPos fun _ => ⟨0, 0⟩) =
      (vs.map Located.item).map fun l => ⟨l, ⟨0, 0⟩⟩ := by
    rw [List.map_map]
    rfl
  have hmove (p : Pos) (vs : List Token) := Program.ofTokens_mapPos (fun _ => ⟨0, 0⟩) p .start vs
  rw [Program.unplaced, Program.unplaced, ← hmove, ← hmove, hforget, hforget, h]

/-- Sources with the same lexemes are parsed alike, up to places. -/
theorem parse_unplaced_congr {s s' : Text} (h : lexemes s = lexemes s') :
    Program.unplaced (Program.parse s) = Program.unplaced (Program.parse s') :=
  ofTokens_unplaced_congr h _ _

end Sexpr
