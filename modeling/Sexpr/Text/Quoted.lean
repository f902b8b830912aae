import Sexpr.Text
import Sexpr.Unicode.DefaultIgnorable
import Sexpr.Unicode.GraphemeExtend
import Sexpr.Unicode.Printable

/-!
Texts and characters between delimiters, with escapes: tab, return, newline, backslash and NUL have
short escapes, the delimiter in use has a backslash before it, and a character that has no shape of
its own, or that a display leaves out or joins to the one before it, is written by its code point.
-/

namespace Sexpr

open Unicode

def codePointEscape (c : Char) : Text :=
  ['\\', 'u', '{'] ++ Nat.toDigits 16 c.toNat ++ ['}']

/-- The voicing marks of halfwidth katakana. They extend the character before them, but have a shape
and a width of their own. -/
def isHalfwidthVoicingMark (c : Char) : Bool :=
  c == '\uff9e' || c == '\uff9f'

/-- Whether a reader would see nothing of a character, or take it for a part of the one before. -/
def isHidden (c : Char) : Bool :=
  !isPrintable c || isDefaultIgnorable c || isGraphemeExtend c && !isHalfwidthVoicingMark c

def escapeChar (delimiter c : Char) : Text :=
  match c with
  | '\x00' => ['\\', '0']
  | '\t' => ['\\', 't']
  | '\r' => ['\\', 'r']
  | '\n' => ['\\', 'n']
  | '\\' => ['\\', '\\']
  | c =>
    if c == delimiter then ['\\', c]
    else if isHidden c then codePointEscape c
    else [c]

def Text.quoted (t : Text) : Text :=
  '"' :: t.flatMap (escapeChar '"') ++ ['"']

def quotedChar (c : Char) : Text :=
  '\'' :: escapeChar '\'' c ++ ['\'']

example : escapeChar '"' '\u0301' = codePointEscape '\u0301' := by decide +kernel

example : escapeChar '"' '\u3164' = codePointEscape '\u3164' := by decide +kernel

example : escapeChar '"' '\uff9e' = ['\uff9e'] := by decide +kernel

end Sexpr
