import Sexpr.Text

/-!
The stream that printed text goes to. A stream is known by how much it takes of each text, which may
depend on all that was handed to it before. A text that it does not take whole is refused, although a
part of it may have arrived.
-/

namespace Sexpr

structure Output where
  /-- The texts handed over so far, the first one first. -/
  handed : List Text
  /-- How many bytes are taken of a text, given the texts handed over before it. -/
  takes : List Text → Text → Nat

namespace Output

def unlimited : Output := ⟨[], fun _ t => Text.byteLength t⟩

def takesWhole (out : Output) (t : Text) : Bool :=
  Text.byteLength t ≤ out.takes out.handed t

def hand (out : Output) (t : Text) : Output :=
  { out with handed := out.handed ++ [t] }

def text (out : Output) : Text :=
  out.handed.flatten

def arriving (takes : List Text → Text → Nat) : List Text → List Text → List UInt8
  | _, [] => []
  | before, t :: ts => t.utf8.take (takes before t) ++ arriving takes (before ++ [t]) ts

def received (out : Output) : List UInt8 :=
  arriving out.takes [] out.handed

theorem arriving_append (takes : List Text → Text → Nat) (before ts us : List Text) :
    arriving takes before (ts ++ us) =
      arriving takes before ts ++ arriving takes (before ++ ts) us := by
  induction ts generalizing before with
  | nil => rw [List.append_nil]; rfl
  | cons t ts ih => simp [arriving, ih]

/-- A text that is taken whole arrives behind what arrived before it. -/
theorem received_hand {out : Output} {t : Text} (h : out.takesWhole t = true) :
    (out.hand t).received = out.received ++ t.utf8 := by
  have hwhole : t.utf8.take (out.takes out.handed t) = t.utf8 := by
    rw [takesWhole, decide_eq_true_eq] at h
    exact List.take_of_length_le (Text.length_utf8 t ▸ h)
  rw [received, hand, arriving_append, arriving, arriving, List.nil_append, hwhole, List.append_nil]
  rfl

end Output

end Sexpr
