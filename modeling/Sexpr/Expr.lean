import Sexpr.Position

/-!
Programs: the expressions of the language and their source form. Every node keeps the places of the
tokens that its parts were read from, and numerals keep their spelling, so that an expression can be
written as it was read.
-/

namespace Sexpr

inductive Expr
  /-- `opening` is the place of the left parenthesis. -/
  | call (opening : Pos) (callee : Located Text) (args : List Expr)
  | ident (name : Located Text)
  | integer (numeral : Located Text) (value : Int64)
  | float (numeral : Located Text) (value : Float)
  | string (body : Located Text)
  | character (c : Located Char)
  /-- A quoted list; its elements need not be of one kind. -/
  | list (quote : Pos) (elements : List Expr)
  | vector (opening : Pos) (elements : List Expr)
  /-- A variable with its value and, maybe, its documentation; `keyword` is the place of the word
  that opens the form. -/
  | defvar (keyword : Pos) (name : Located Text) (value : Expr) (doc : Option (Located Text))

abbrev Program := List Expr

namespace Expr

def defvarWord : Text := ['d', 'e', 'f', 'v', 'a', 'r']

def pos : Expr → Pos
  | call opening _ _ => opening
  | ident name => name.pos
  | integer numeral _ => numeral.pos
  | float numeral _ => numeral.pos
  | string body => body.pos
  | character c => c.pos
  | list quote _ => quote
  | vector opening _ => opening
  | defvar keyword _ _ _ => keyword

def stringText (body : Text) : Text :=
  '"' :: body ++ ['"']

def spaced (parts : List Text) : Text :=
  List.intercalate [' '] parts

mutual

def text : Expr → Text
  | call _ callee args => '(' :: spaced (callee.item :: texts args) ++ [')']
  | ident name => name.item
  | integer numeral _ => numeral.item
  | float numeral _ => numeral.item
  | string body => stringText body.item
  | character c => ['\'', c.item, '\'']
  | list _ elements => ['\'', '('] ++ spaced (texts elements) ++ [')']
  | vector _ elements => '[' :: spaced (texts elements) ++ [']']
  | defvar _ name value none => '(' :: spaced [defvarWord, name.item, value.text] ++ [')']
  | defvar _ name value (some doc) =>
    '(' :: spaced [defvarWord, name.item, value.text, stringText doc.item] ++ [')']

def texts : List Expr → List Text
  | [] => []
  | e :: es => e.text :: texts es

end

theorem texts_eq_map (es : List Expr) : texts es = es.map text := by
  induction es with
  | nil => rfl
  | cons e es ih => simp [texts, ih]

end Expr

def Program.text (p : Program) : Text :=
  List.intercalate ['\n'] (p.map Expr.text)

end Sexpr
