/-!
Texts: sources, names, string values and everything that is printed. A text is a list of characters,
so that scanning and printing are operations on lists; places in it are counted in characters and in
bytes of its UTF-8 form.
-/

namespace Sexpr

abbrev Text := List Char

namespace Text

def byteLength : Text → Nat
  | [] => 0
  | c :: t => c.utf8Size + byteLength t

@[simp] theorem byteLength_nil : byteLength [] = 0 := rfl

@[simp] theorem byteLength_cons (c : Char) (t : Text) :
    byteLength (c :: t) = c.utf8Size + byteLength t := rfl

@[simp] theorem byteLength_append (t u : Text) :
    byteLength (t ++ u) = byteLength t + byteLength u := by
  induction t with
  | nil => simp
  | cons c t ih => simp [ih, Nat.add_assoc]

theorem byteLength_pos {t : Text} (ht : t ≠ []) : 0 < byteLength t := by
  obtain ⟨c, r, rfl⟩ := List.exists_cons_of_ne_nil ht
  exact Nat.add_pos_left (Char.utf8Size_pos c) _

def utf8 (t : Text) : List UInt8 :=
  t.flatMap String.utf8EncodeChar

theorem utf8_append (t u : Text) : utf8 (t ++ u) = utf8 t ++ utf8 u :=
  List.flatMap_append

theorem length_utf8 (t : Text) : (utf8 t).length = byteLength t := by
  induction t with
  | nil => rfl
  | cons c t ih =>
    have hcons : utf8 (c :: t) = String.utf8EncodeChar c ++ utf8 t := List.flatMap_cons
    rw [hcons, List.length_append, String.length_utf8EncodeChar, ih, byteLength_cons]

def takeBytes : Nat → Text → Text
  | _, [] => []
  | n, c :: t => if c.utf8Size ≤ n then c :: takeBytes (n - c.utf8Size) t else []

/-- The bytes of a beginning are those of its characters. -/
theorem takeBytes_byteLength_append (t u : Text) : takeBytes (byteLength t) (t ++ u) = t := by
  induction t with
  | nil =>
    cases u with
    | nil => rfl
    | cons c u => simp [takeBytes, Nat.not_le.mpr (Char.utf8Size_pos c)]
  | cons c t ih => simp [takeBytes, ih]

def dropBytes : Nat → Text → Text
  | 0, t => t
  | _ + 1, [] => []
  | n + 1, c :: t => dropBytes (n + 1 - c.utf8Size) t

theorem dropBytes_byteLength_append (t u : Text) : dropBytes (byteLength t) (t ++ u) = u := by
  induction t with
  | nil => cases u <;> rfl
  | cons c t ih =>
    obtain ⟨n, hn⟩ : ∃ n, c.utf8Size + byteLength t = n + 1 :=
      Nat.exists_eq_add_one.mpr (Nat.add_pos_left (Char.utf8Size_pos c) _)
    rw [byteLength_cons, List.cons_append, hn, dropBytes, ← hn, Nat.add_sub_cancel_left, ih]

/-- The 1-based line on which a byte stands; a place past the end is on the last line. -/
def lineOf (source : Text) (byte : Nat) : Nat :=
  (takeBytes byte source).count '\n' + 1

/-- The order of texts: by the first code point in which they differ; a text comes after its
beginnings. -/
def le : Text → Text → Bool
  | [], _ => true
  | _ :: _, [] => false
  | c :: t, d :: u => c.toNat < d.toNat || c.toNat == d.toNat && le t u

def trim (p : Char → Bool) (t : Text) : Text :=
  ((t.dropWhile p).reverse.dropWhile p).reverse

def isBlank (c : Char) : Bool :=
  c == ' ' || c == '\t' || c == '\r' || c == '\n'

def unlines (lines : List Text) : Text :=
  lines.flatMap (· ++ ['\n'])

def ofInt (n : Int) : Text :=
  if n < 0 then '-' :: Nat.toDigits 10 n.natAbs else Nat.toDigits 10 n.natAbs

end Text

end Sexpr
