import Sexpr.Expr
import Sexpr.Decimal.FloatText
import Sexpr.Text.Quoted

/-!
The tree form of an expression: the kind, the place and the parts of every node.
-/

namespace Sexpr

namespace Expr

def kindName : Expr → String
  | call .. => "FunctionCall"
  | ident _ => "Identifier"
  | integer .. => "IntegerLiteral"
  | float .. => "FloatLiteral"
  | string _ => "StringLiteral"
  | character _ => "CharacterLiteral"
  | list .. => "ListLiteral"
  | vector .. => "VectorLiteral"
  | defvar .. => "DefVar"

def node (e : Expr) (parts : Text) : Text :=
  "<ast.".toList ++ e.kindName.toList ++ " pos: ".toList ++ Nat.toDigits 10 e.pos.offset ++ parts ++
    ['>']

def bracketed (trees : List Text) : Text :=
  '[' :: List.intercalate [',', ' '] trees ++ [']']

mutual

def tree : Expr → Text
  | e@(call _ callee args) =>
    e.node (" callee: ".toList ++ callee.item ++ " arguments: ".toList ++ bracketed (trees args))
  | e@(ident name) => e.node (" value: ".toList ++ name.item)
  | e@(integer _ value) => e.node (" value: ".toList ++ Text.ofInt value.toInt)
  | e@(float _ value) => e.node (" value: ".toList ++ FloatStyle.compact.write value)
  | e@(string body) => e.node (" value: ".toList ++ Text.quoted body.item)
  | e@(character c) => e.node (" value: ".toList ++ quotedChar c.item)
  | e@(list _ elements) => e.node (" elements: ".toList ++ bracketed (trees elements))
  | e@(vector _ elements) => e.node (" elements: ".toList ++ bracketed (trees elements))
  | e@(defvar _ name value doc) =>
    e.node (" name: ".toList ++ name.item ++ " value: ".toList ++ value.tree ++
      match doc with
      | none => []
      | some d => " documentation: ".toList ++ Text.quoted d.item)

def trees : List Expr → List Text
  | [] => []
  | e :: es => e.tree :: trees es

end

theorem trees_eq_map (es : List Expr) : trees es = es.map tree := by
  induction es with
  | nil => rfl
  | cons e es ih => simp [trees, ih]

end Expr

def Program.tree (p : Program) : Text :=
  List.intercalate ['\n'] (p.map Expr.tree)

end Sexpr
