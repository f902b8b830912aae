import Sexpr.Proofs.Spelling

/-! Reading what was written off the front of a text. A part can be read off if its text and the text
behind it determine each other: a run ends where a character of another class follows, and a row of
parts ends where neither a separator nor a part can follow. So what is written part by part means one
thing only, however deep the parts are nested. -/
namespace Sexpr

namespace Text

/-- A run of one class of characters ends where another class begins. -/
theorem append_inj_of_class {p : Char → Bool} {t u r s : Text} (ht : ∀ c ∈ t, p c = true)
    (hu : ∀ c ∈ u, p c = true) (hr : ∀ c ∈ r.head?, p c = false) (hs : ∀ c ∈ s.head?, p c = false)
    (h : t ++ r = u ++ s) : t = u ∧ r = s := by
  obtain ⟨ht, hr⟩ := Lexeme.takeWhile_append_of_head? ht hr
  obtain ⟨hu, hs⟩ := Lexeme.takeWhile_append_of_head? hu hs
  constructor
  · rw [← ht, h, hu]
  · rw [← hr, h, hs]

/-- A text in which a character does not occur ends before its first occurrence. -/
theorem append_cons_inj {c : Char} {t u r s : Text} (ht : c ∉ t) (hu : c ∉ u)
    (h : t ++ c :: r = u ++ c :: s) : t = u ∧ r = s := by
  have hother {v : Text} (hv : c ∉ v) : ∀ d ∈ v, (d != c) = true := by
    intro d hd
    rw [bne_iff_ne]
    rintro rfl
    exact hv hd
  have hstop (v : Text) : ∀ d ∈ (c :: v).head?, (d != c) = false := by
    rintro _ ⟨⟩
    exact bne_self_eq_false c
  obtain ⟨htext, hrest⟩ := append_inj_of_class (hother ht) (hother hu) (hstop r) (hstop s) h
  exact ⟨htext, (List.cons.inj hrest).2⟩

def Follows (stops rest : Text) : Prop :=
  ∀ c ∈ rest.head?, c ∈ stops

theorem follows_nil (stops : Text) : Follows stops [] := nofun

theorem follows_cons {stops : Text} {c : Char} {rest : Text} (hc : c ∈ stops) :
    Follows stops (c :: rest) := by
  rintro _ ⟨⟩
  exact hc

theorem Follows.append {stops t rest : Text} (ht : Follows stops t) (hrest : Follows stops rest) :
    Follows stops (t ++ rest) := by
  cases t with
  | nil => exact hrest
  | cons c t => exact ht

/-- A run of characters that cannot follow it. -/
theorem append_inj_of_follows {stops t u r s : Text} (ht : ∀ c ∈ t, c ∉ stops)
    (hu : ∀ c ∈ u, c ∉ stops) (hr : Follows stops r) (hs : Follows stops s)
    (h : t ++ r = u ++ s) : t = u ∧ r = s := by
  have hclass {v : Text} (hv : ∀ c ∈ v, c ∉ stops) : ∀ c ∈ v, decide (c ∉ stops) = true :=
    fun c hc => decide_eq_true (hv c hc)
  have hend {v : Text} (hv : Follows stops v) : ∀ c ∈ v.head?, decide (c ∉ stops) = false :=
    fun c hc => decide_eq_false (not_not_intro (hv c hc))
  exact append_inj_of_class (hclass ht) (hclass hu) (hend hr) (hend hs) h

theorem intercalate_cons (sep t : Text) (ts : List Text) :
    List.intercalate sep (t :: ts) = t ++ ts.flatMap (sep ++ ·) := by
  induction ts generalizing t with
  | nil => simp
  | cons u ts ih => rw [List.intercalate_cons_cons, ih, List.flatMap_cons, List.append_assoc,
      List.append_assoc]

end Text

open Text (Follows)

section
variable {α β : Type} {text : α → Text} {meaning : α → β} {stops : Text}

/-- Where the texts of two parts stand in front of what can follow them, they agree only if the parts
mean the same and the rests agree. -/
def ReadsOff (text : α → Text) (meaning : α → β) (stops : Text) (a b : α) : Prop :=
  ∀ r s, Follows stops r → Follows stops s → text a ++ r = text b ++ s →
    meaning a = meaning b ∧ r = s

variable {sep : Char} {more r s : Text} {as bs : List α}

/-- Rows are read off element by element, up to where no separator stands. -/
theorem readsOff_cons {a b : α} (hsep : sep ∈ stops)
    (hread : ∀ c ∈ a :: as, ∀ d ∈ b :: bs, ReadsOff text meaning stops c d) (hr : Follows stops r)
    (hs : Follows stops s) (hrsep : r.head? ≠ some sep) (hssep : s.head? ≠ some sep)
    (h : List.intercalate (sep :: more) ((a :: as).map text) ++ r =
      List.intercalate (sep :: more) ((b :: bs).map text) ++ s) :
    (a :: as).map meaning = (b :: bs).map meaning ∧ r = s := by
  have hcons (c : α) (cs : List α) (v : Text) :
      List.intercalate (sep :: more) ((c :: cs).map text) ++ v =
        text c ++ (cs.flatMap (fun c => sep :: more ++ text c) ++ v) := by
    rw [List.map_cons, Text.intercalate_cons, List.flatMap_map, List.append_assoc]
  have hfollows (cs : List α) : Follows stops (cs.flatMap fun c => sep :: more ++ text c) := by
    cases cs with
    | nil => exact Text.follows_nil stops
    | cons c cs => exact Text.follows_cons hsep
  -- the two rows go on together, because a separator cannot stand where a row has ended
  induction as generalizing a b bs with
  | nil =>
    rw [hcons, hcons] at h
    obtain ⟨hab, hrest⟩ := hread a List.mem_cons_self b List.mem_cons_self _ _
      ((hfollows []).append hr) ((hfollows bs).append hs) h
    cases bs with
    | nil => exact ⟨congrArg (fun m => [m]) hab, hrest⟩
    | cons d bs => exact absurd (congrArg List.head? hrest) hrsep
  | cons c as ih =>
    rw [hcons, hcons] at h
    obtain ⟨hab, hrest⟩ := hread a List.mem_cons_self b List.mem_cons_self _ _
      ((hfollows (c :: as)).append hr) ((hfollows bs).append hs) h
    cases bs with
    | nil => exact absurd (congrArg List.head? hrest.symm) hssep
    | cons d bs =>
      simp only [List.flatMap_cons, List.append_assoc, List.append_cancel_left_eq] at hrest
      rw [← hcons, ← hcons] at hrest
      obtain ⟨hmap, hrs⟩ := ih
        (fun x hx y hy => hread x (List.mem_cons_of_mem a hx) y (List.mem_cons_of_mem b hy)) hrest
      exact ⟨List.cons_eq_cons.mpr ⟨hab, hmap⟩, hrs⟩

/-- Parts with a separator between each two. -/
theorem readsOff_intercalate (hsep : sep ∈ stops)
    (hread : ∀ a ∈ as, ∀ b ∈ bs, ReadsOff text meaning stops a b)
    (hhead : ∀ a, ∃ c t, text a = c :: t ∧ c ∉ stops) (hr : Follows stops r) (hs : Follows stops s)
    (hrsep : r.head? ≠ some sep) (hssep : s.head? ≠ some sep)
    (h : List.intercalate (sep :: more) (as.map text) ++ r =
      List.intercalate (sep :: more) (bs.map text) ++ s) :
    as.map meaning = bs.map meaning ∧ r = s := by
  have hnil {c : α} {cs : List α} {v w : Text} (hv : Follows stops v)
      (heq : v = List.intercalate (sep :: more) ((c :: cs).map text) ++ w) : False := by
    obtain ⟨d, t, hd, hstop⟩ := hhead c
    rw [List.map_cons, Text.intercalate_cons, hd] at heq
    exact hstop (hv d (by rw [heq]; rfl))
  cases as with
  | nil =>
    cases bs with
    | nil => exact ⟨rfl, h⟩
    | cons b bs => exact (hnil hr h).elim
  | cons a as =>
    cases bs with
    | nil => exact (hnil hs h.symm).elim
    | cons b bs => exact readsOff_cons hsep hread hr hs hrsep hssep h

end

end Sexpr
