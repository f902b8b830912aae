import Sexpr.Decimal.FloatText

/-!
Values and their text. On its own a string or a character is shown bare; inside a collection it
keeps its delimiters. Equality is that of the numbers themselves: a NaN differs from itself, and the
two zeros are equal.
-/

namespace Sexpr

inductive Value
  | int (n : Int64)
  | float (x : Float)
  | string (t : Text)
  | character (c : Char)
  | bool (b : Bool)
  | list (elements : List Value)
  | vector (elements : List Value)

namespace Value

inductive Kind
  | int
  | float
  | string
  | character
  | bool
  | list
  | vector
deriving DecidableEq

def Kind.name : Kind → String
  | int => "Int"
  | float => "Float"
  | string => "String"
  | character => "Character"
  | bool => "Bool"
  | list => "List"
  | vector => "Vector"

def kind : Value → Kind
  | int _ => .int
  | float _ => .float
  | string _ => .string
  | character _ => .character
  | bool _ => .bool
  | list _ => .list
  | vector _ => .vector

def int? : Value → Option Int64
  | int n => some n
  | _ => none

theorem int?_eq_none_iff {v : Value} : v.int? = none ↔ v.kind ≠ .int := by
  cases v <;> simp [int?, kind]

def float? : Value → Option Float
  | float x => some x
  | _ => none

theorem float?_eq_none_iff {v : Value} : v.float? = none ↔ v.kind ≠ .float := by
  cases v <;> simp [float?, kind]

def delimited : Value → Text → Text
  | string _, t => '"' :: t ++ ['"']
  | character _, t => '\'' :: t ++ ['\'']
  | _, t => t

mutual

def text : Value → Text
  | int n => Text.ofInt n.toInt
  | float x => FloatStyle.plain.write x
  | string t => t
  | character c => [c]
  | bool true => ['t', 'r', 'u', 'e']
  | bool false => ['f', 'a', 'l', 's', 'e']
  | list elements => '(' :: List.intercalate [' '] (elementTexts elements) ++ [')']
  | vector elements => '[' :: List.intercalate [' '] (elementTexts elements) ++ [']']

def elementTexts : List Value → List Text
  | [] => []
  | v :: vs => v.delimited v.text :: elementTexts vs

end

theorem elementTexts_eq_map (vs : List Value) :
    elementTexts vs = vs.map fun v => v.delimited v.text := by
  induction vs with
  | nil => rfl
  | cons v vs ih => simp [elementTexts, ih]

mutual

def equal : Value → Value → Bool
  | int m, int n => m == n
  | float x, float y => x == y
  | string t, string u => t == u
  | character c, character d => c == d
  | bool a, bool b => a == b
  | list vs, list ws => equalAll vs ws
  | vector vs, vector ws => equalAll vs ws
  | _, _ => false

def equalAll : List Value → List Value → Bool
  | [], [] => true
  | v :: vs, w :: ws => v.equal w && equalAll vs ws
  | _, _ => false

end

end Value

end Sexpr
