import Sexpr.Expr
import Sexpr.Integer
import Sexpr.Decimal
import Sexpr.SyntaxError

/-!
Forms under construction. A reader holds the innermost open form and the forms around it, and takes
one token at a time: it opens a form, fills one, closes one, or refuses the token. Nothing is read
ahead, so what a reader does depends on the tokens so far only.
-/

namespace Sexpr

/-- An open form that takes an expression next. Its elements are kept in reverse. -/
inductive Frame
  | call (opening : Pos) (callee : Located Text) (revArgs : List Expr)
  | list (quote : Pos) (revElements : List Expr)
  | vector (opening : Pos) (revElements : List Expr)
  | defvar (keyword : Pos) (name : Located Text)

inductive Wanted
  /-- An expression, or the end of the innermost frame. -/
  | item
  /-- The name behind a left parenthesis. -/
  | callee (opening : Pos)
  /-- The parenthesis behind a quote. -/
  | elements (quote : Pos)
  /-- The name that a definition binds. -/
  | name (keyword : Pos)
  /-- The documentation or the end of a definition. -/
  | doc (keyword : Pos) (name : Located Text) (value : Expr)
  /-- The end of a definition. -/
  | closing (keyword : Pos) (name : Located Text) (value : Expr) (doc : Located Text)

structure Reader where
  wanted : Wanted
  frames : List Frame

inductive Move
  /-- The token is taken and forms are still open. -/
  | more (r : Reader)
  /-- The token is taken and completes the outermost expression. -/
  | whole (e : Expr)
  /-- The token is not taken. -/
  | refused (e : SyntaxError)
  /-- The token is taken, but it is a numeral without a value. -/
  | spoiled (e : SyntaxError)

namespace Reader

def start : Reader := ⟨.item, []⟩

def isStart (r : Reader) : Bool :=
  match r with
  | ⟨.item, []⟩ => true
  | _ => false

def fill (e : Expr) : List Frame → Move
  | [] => .whole e
  | .call opening callee args :: frames => .more ⟨.item, .call opening callee (e :: args) :: frames⟩
  | .list quote elements :: frames => .more ⟨.item, .list quote (e :: elements) :: frames⟩
  | .vector opening elements :: frames => .more ⟨.item, .vector opening (e :: elements) :: frames⟩
  | .defvar keyword name :: frames => .more ⟨.doc keyword name e, frames⟩

def begin (frames : List Frame) (t : Token) : Move :=
  match t.item with
  | .leftParen => .more ⟨.callee t.pos, frames⟩
  | .quote => .more ⟨.elements t.pos, frames⟩
  | .leftBracket => .more ⟨.item, .vector t.pos [] :: frames⟩
  | .ident name => fill (.ident ⟨name, t.pos⟩) frames
  | .integer numeral =>
    match int64? (numeralValue numeral) with
    | some value => fill (.integer ⟨numeral, t.pos⟩ value) frames
    | none => .spoiled (.numberTooLarge ⟨numeral, t.pos⟩)
  | .float numeral => fill (.float ⟨numeral, t.pos⟩ (Decimal.ofNumeral numeral).toFloat) frames
  | .string body => fill (.string ⟨body, t.pos⟩) frames
  | .character c => fill (.character ⟨c, t.pos⟩) frames
  | .rightParen | .rightBracket | .colon | .illegal _ | .endOfInput =>
    .refused (t.refusal .expression)

def item (frames : List Frame) (t : Token) : Move :=
  match t.item, frames with
  | .rightParen, .call opening callee args :: rest => fill (.call opening callee args.reverse) rest
  | .rightParen, .list quote elements :: rest => fill (.list quote elements.reverse) rest
  | .rightBracket, .vector opening elements :: rest =>
    fill (.vector opening elements.reverse) rest
  | _, _ => begin frames t

def step (r : Reader) (t : Token) : Move :=
  match r.wanted, t.item with
  | .item, _ => item r.frames t
  | .callee opening, .ident name =>
    if name = Expr.defvarWord then .more ⟨.name t.pos, r.frames⟩
    else .more ⟨.item, .call opening ⟨name, t.pos⟩ [] :: r.frames⟩
  | .elements quote, .leftParen => .more ⟨.item, .list quote [] :: r.frames⟩
  | .name keyword, .ident name => .more ⟨.item, .defvar keyword ⟨name, t.pos⟩ :: r.frames⟩
  | .doc keyword name value, .string body =>
    .more ⟨.closing keyword name value ⟨body, t.pos⟩, r.frames⟩
  | .doc keyword name value, .rightParen => fill (.defvar keyword name value none) r.frames
  | .closing keyword name value doc, .rightParen =>
    fill (.defvar keyword name value (some doc)) r.frames
  | .callee _, _ | .name _, _ => .refused (t.refusal .identifier)
  | .elements _, _ => .refused (t.refusal .opening)
  | .doc .., _ | .closing .., _ => .refused (t.refusal .closing)

end Reader

end Sexpr
