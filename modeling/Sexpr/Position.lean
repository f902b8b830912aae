import Sexpr.Text

/-!
Places in a source, in characters and in bytes at once, and things that were read at a place.
-/

namespace Sexpr

/-- A number of characters and the number of bytes that they take. -/
structure Pos where
  offset : Nat
  byte : Nat
deriving DecidableEq

def Pos.advance (p : Pos) (t : Text) : Pos :=
  ⟨p.offset + t.length, p.byte + Text.byteLength t⟩

@[simp] theorem Pos.advance_nil (p : Pos) : p.advance [] = p := rfl

theorem Pos.advance_append (p : Pos) (t u : Text) :
    p.advance (t ++ u) = (p.advance t).advance u := by
  simp [Pos.advance, Nat.add_assoc]

structure Span where
  start : Nat
  length : Nat
deriving DecidableEq

structure Located (α : Type) where
  item : α
  pos : Pos
deriving DecidableEq

end Sexpr
