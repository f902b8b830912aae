import Sexpr.Proofs.FloatTexts
import Sexpr.Proofs.WellFormed

/-! The text of a collection and the only collection that it stands for. The first character of an
element tells whether it is delimited; a string ends at the next double quote, numbers and truth values
end where a blank or a bracket follows, and a row of elements ends at a bracket that no element begins
with. Quotes in strings would break this, but no session comes to such a string. -/
namespace Sexpr

namespace Value

/-- No string in the value has a double quote, down to its innermost elements. -/
inductive QuoteFree : Value → Prop
  | int (n : Int64) : QuoteFree (int n)
  | float (x : Float) : QuoteFree (float x)
  | string {t : Text} (ht : '"' ∉ t) : QuoteFree (string t)
  | character (c : Char) : QuoteFree (character c)
  | bool (b : Bool) : QuoteFree (bool b)
  | list {vs : List Value} (hvs : ∀ v ∈ vs, QuoteFree v) : QuoteFree (list vs)
  | vector {vs : List Value} (hvs : ∀ v ∈ vs, QuoteFree v) : QuoteFree (vector vs)

/-- What can be written in a source holds no double quote, since a string ends at the first one. -/
theorem WellFormed.quoteFree {v : Value} (h : v.WellFormed) : v.QuoteFree := by
  induction h with
  | int n => exact .int n
  | float x => exact .float x
  | string ht => exact .string ht
  | @character c _ => exact .character c
  | bool b => exact .bool b
  | list _ ih => exact .list ih
  | vector _ _ _ ih => exact .vector ih

def element (v : Value) : Text :=
  v.delimited v.text

def stops : Text :=
  [' ', ')', ']']

def openers : Text :=
  ['"', '\'', '(', '[']

def opener? : Value → Option Char
  | string _ => some '"'
  | character _ => some '\''
  | list _ => some '('
  | vector _ => some '['
  | _ => none

theorem mem_text_of_opener? {v : Value} (hv : v.opener? = none) {c : Char} (hc : c ∈ v.text) :
    c ∉ stops ++ openers := by
  have hnumeral {c : Char} (h : Lexeme.isNumeral c = true) : c ∉ stops ++ openers := by
    have hall : (stops ++ openers).all (fun d => !Lexeme.isNumeral d) = true := by decide
    intro hmem
    have hc := List.all_eq_true.mp hall c hmem
    rw [h] at hc
    cases hc
  have hletters {t : Text} (ht : t.all (fun d => !(stops ++ openers).contains d) = true)
      (h : c ∈ t) : c ∉ stops ++ openers := by
    simpa using List.all_eq_true.mp ht c h
  cases v with
  | int n =>
    rcases Text.mem_ofInt hc with rfl | hc
    · decide
    · refine hnumeral ?_
      rw [Lexeme.isNumeral, hc]
      rfl
  | float x =>
    rcases FloatStyle.mem_write hc with hc | hc
    · exact hnumeral hc
    · exact hletters (by decide) hc
  | bool b =>
    cases b
    · exact hletters (by decide) hc
    · exact hletters (by decide) hc
  | _ => cases hv

theorem text_ne_nil_of_opener? {v : Value} (hv : v.opener? = none) : v.text ≠ [] := by
  cases v with
  | int n =>
    change Text.ofInt n.toInt ≠ []
    unfold Text.ofInt
    split
    · exact List.cons_ne_nil _ _
    · exact Nat.toDigits_ne_nil
  | float x =>
    obtain ⟨c, hc, -⟩ := FloatStyle.exists_mem_plain_write x
    exact List.ne_nil_of_mem hc
  | bool b => cases b <;> exact List.cons_ne_nil _ _
  | _ => cases hv

theorem exists_element_cons (v : Value) : ∃ c t, v.element = c :: t ∧ c ∉ stops ∧
    v.opener? = if c ∈ openers then some c else none := by
  cases hv : v.opener? with
  | none =>
    have hword := fun c => mem_text_of_opener? hv (c := c)
    obtain ⟨c, t, htext⟩ := List.exists_cons_of_ne_nil (text_ne_nil_of_opener? hv)
    have hc : c ∉ stops ++ openers := hword c (by rw [htext]; exact List.mem_cons_self)
    rw [List.mem_append, not_or] at hc
    refine ⟨c, t, ?_, hc.1, (if_neg hc.2).symm⟩
    rw [← htext]
    cases v with
    | int n => rfl
    | float x => rfl
    | bool b => rfl
    | _ => cases hv
  | some o =>
    cases v with
    | string t =>
      cases hv
      exact ⟨'"', t ++ ['"'], rfl, by decide, rfl⟩
    | character c =>
      cases hv
      exact ⟨'\'', [c] ++ ['\''], rfl, by decide, rfl⟩
    | list vs =>
      cases hv
      exact ⟨'(', _, rfl, by decide, rfl⟩
    | vector vs =>
      cases hv
      exact ⟨'[', _, rfl, by decide, rfl⟩
    | _ => cases hv

/-- The beginning of an element tells its delimiters. -/
theorem opener?_eq_of_append {v w : Value} {r s : Text} (h : v.element ++ r = w.element ++ s) :
    v.opener? = w.opener? := by
  obtain ⟨c, t, hv, -, hopener⟩ := v.exists_element_cons
  obtain ⟨d, u, hw, -, hopener'⟩ := w.exists_element_cons
  rw [hv, hw] at h
  rw [hopener, hopener', (List.cons.inj h).1]

/-- Numbers and truth values are told apart by their texts. -/
theorem eq_of_text {v w : Value} (hv : v.opener? = none) (hw : w.opener? = none)
    (h : v.text = w.text) : v = w := by
  have hint {n : Int64} {c : Char} (hc : c ∈ (int n).text) : c = '-' ∨ Lexeme.isDigit c = true :=
    Text.mem_ofInt hc
  have hintfloat {n : Int64} {x : Float} (h : (int n).text = (float x).text) : False := by
    obtain ⟨c, hc, hdigit, hminus⟩ := FloatStyle.exists_mem_plain_write x
    have hc : c ∈ (int n).text := by
      rw [h]
      exact hc
    rcases hint hc with hc | hc
    · exact hminus hc
    · rw [hdigit] at hc
      cases hc
  -- an `e` ends both truth values, and has a letter before it that no number has
  have hintbool {n : Int64} {b : Bool} (h : (int n).text = (bool b).text) : False := by
    have he : 'e' ∈ (int n).text := by
      rw [h]
      cases b <;> decide
    exact absurd (hint he) (by decide)
  have hfloatbool {x : Float} {b : Bool} (h : (float x).text = (bool b).text) : False := by
    have hletter (c : Char) (hc : c ∈ (bool b).text) :
        Lexeme.isNumeral c = true ∨ c ∈ ['-', 'e', 'i', 'n', 'f', 'N', 'a'] :=
      FloatStyle.mem_write (show c ∈ (float x).text from h ▸ hc)
    cases b
    · exact absurd (hletter 'l' (by decide)) (by decide)
    · exact absurd (hletter 't' (by decide)) (by decide)
  cases v with
  | int n =>
    cases w with
    | int m => exact congrArg int (Int64.toInt_inj.mp (Text.ofInt_inj h))
    | float y => exact (hintfloat h).elim
    | bool b => exact (hintbool h).elim
    | _ => cases hw
  | float x =>
    cases w with
    | int m => exact (hintfloat h.symm).elim
    | float y => exact congrArg float (FloatStyle.write_inj h)
    | bool b => exact (hfloatbool h).elim
    | _ => cases hw
  | bool b =>
    cases w with
    | int m => exact (hintbool h.symm).elim
    | float y => exact (hfloatbool h.symm).elim
    | bool c => cases b <;> cases c <;> first | rfl | exact absurd h (by decide)
    | _ => cases hw
  | _ => cases hv

/-- Without delimiters, an element ends at the first character that no such element has. -/
theorem readsOff_of_opener? {v w : Value} (hv : v.opener? = none) (hw : w.opener? = none) :
    ReadsOff element id stops v w := by
  have helement {u : Value} (hu : u.opener? = none) : u.element = u.text := by
    cases u with
    | int n => rfl
    | float x => rfl
    | bool b => rfl
    | _ => cases hu
  have hword {u : Value} (hu : u.opener? = none) : ∀ c ∈ u.text, c ∉ stops := fun c hc hstop =>
    mem_text_of_opener? hu hc (List.mem_append_left _ hstop)
  intro r s hr hs h
  rw [helement hv, helement hw] at h
  obtain ⟨htext, hrest⟩ := Text.append_inj_of_follows (hword hv) (hword hw) hr hs h
  exact ⟨eq_of_text hv hw htext, hrest⟩

/-- A row of elements ends at a bracket. -/
theorem eq_of_intercalate {vs ws : List Value} {r s : Text} {close : Char} (hclose : close ∈ [')', ']'])
    (hread : ∀ v ∈ vs, ∀ w ∈ ws, ReadsOff element id stops v w)
    (h : List.intercalate [' '] (elementTexts vs) ++ close :: r =
      List.intercalate [' '] (elementTexts ws) ++ close :: s) : vs = ws ∧ r = s := by
  have hstop : close ∈ stops := List.mem_cons_of_mem _ hclose
  have hblank (t : Text) : (close :: t).head? ≠ some ' ' := by
    intro hspace
    rw [Option.some.inj hspace] at hclose
    exact absurd hclose (by decide)
  have hhead (v : Value) : ∃ c t, v.element = c :: t ∧ c ∉ stops := by
    obtain ⟨c, t, hv, hc, -⟩ := v.exists_element_cons
    exact ⟨c, t, hv, hc⟩
  rw [elementTexts_eq_map, elementTexts_eq_map] at h
  obtain ⟨hmap, hrest⟩ := readsOff_intercalate (by decide) hread hhead (Text.follows_cons hstop)
    (Text.follows_cons hstop) (hblank r) (hblank s) h
  rw [List.map_id, List.map_id] at hmap
  exact ⟨hmap, (List.cons.inj hrest).2⟩

/-- The text of an element tells which value it is, whatever stands behind it. -/
theorem QuoteFree.readsOff {v : Value} (hv : v.QuoteFree) {w : Value} (hw : w.QuoteFree) :
    ReadsOff element id stops v w := by
  have hword {v w : Value} (hv : v.opener? = none) : ReadsOff element id stops v w :=
    fun r s hr hs h =>
      readsOff_of_opener? hv ((opener?_eq_of_append h).symm.trans hv) r s hr hs h
  induction hv generalizing w with
  | int n => exact hword rfl
  | float x => exact hword rfl
  | bool b => exact hword rfl
  | @string t ht =>
    intro r s hr hs h
    have hopener := opener?_eq_of_append h
    cases hw with
    | @string u hu =>
      simp only [element, delimited, text, List.cons_append, List.append_assoc, List.cons.injEq,
        true_and, List.nil_append] at h
      obtain ⟨rfl, rfl⟩ := Text.append_cons_inj ht hu h
      exact ⟨rfl, rfl⟩
    | _ => cases hopener
  | character c =>
    intro r s hr hs h
    have hopener := opener?_eq_of_append h
    cases hw with
    | character d =>
      simp only [element, delimited, text, List.cons_append, List.cons.injEq, true_and,
        List.nil_append] at h
      obtain ⟨rfl, rfl⟩ := h
      exact ⟨rfl, rfl⟩
    | _ => cases hopener
  | @list vs hvs ih =>
    intro r s hr hs h
    have hopener := opener?_eq_of_append h
    cases hw with
    | @list ws hws =>
      simp only [element, delimited, text, List.cons_append, List.append_assoc, List.cons.injEq,
        true_and, List.nil_append] at h
      obtain ⟨rfl, rfl⟩ := eq_of_intercalate (by decide) (fun v hv w hw => ih v hv (hws w hw)) h
      exact ⟨rfl, rfl⟩
    | _ => cases hopener
  | @vector vs hvs ih =>
    intro r s hr hs h
    have hopener := opener?_eq_of_append h
    cases hw with
    | @vector ws hws =>
      simp only [element, delimited, text, List.cons_append, List.append_assoc, List.cons.injEq,
        true_and, List.nil_append] at h
      obtain ⟨rfl, rfl⟩ := eq_of_intercalate (by decide) (fun v hv w hw => ih v hv (hws w hw)) h
      exact ⟨rfl, rfl⟩
    | _ => cases hopener

/-- A list or a vector has the same text on its own as it has as an element. -/
theorem element_of_kind {v : Value} (hv : v.kind = .list ∨ v.kind = .vector) : v.element = v.text := by
  cases v with
  | list vs => rfl
  | vector vs => rfl
  | _ => rcases hv with hv | hv <;> cases hv

end Value

/-- Printed collections stand for one value only, kind by kind and element by element, as long as no
string in them has a double quote; and no session that began with nothing comes to such a string. -/
theorem collections_are_determined_by_their_texts (hasRoom : Nat → Bool) :
    (∀ v w : Value, (v.kind = .list ∨ v.kind = .vector) → (w.kind = .list ∨ w.kind = .vector) →
        v.QuoteFree → w.QuoteFree → v.text = w.text → v = w) ∧
      ∀ runs : List (Output × Text), let s := Session.start.afterRuns hasRoom runs
        (∀ b ∈ s.env.bindings, b.value.QuoteFree) ∧
          ∀ out source v, (Session.run hasRoom { s with out } source).1 = .ok (some v) →
            v.QuoteFree := by
  refine ⟨?_, ?_⟩
  · intro v w hv hw hvquote hwquote h
    rw [← Value.element_of_kind hv, ← Value.element_of_kind hw] at h
    exact (hvquote.readsOff hwquote [] [] (Text.follows_nil _) (Text.follows_nil _)
      (congrArg (· ++ []) h)).1
  · intro runs s
    have hs : s.env.WellFormed :=
      Session.wellFormed_afterRuns (fun _ hb => absurd hb List.not_mem_nil) runs
    refine ⟨fun b hb => (hs b hb).value.quoteFree, fun out source v hv => ?_⟩
    exact ((Session.wellFormed_run (s := { s with out }) hs source).2 v hv).quoteFree

/-- With a quote in a string, one text stands for two lists. -/
example : (Value.list [.string "a\" \"b".toList]).text =
    (Value.list [.string ['a'], .string ['b']]).text := by
  decide

/-- A sum of floats that is printed with all its digits is the number with these digits, also between
elements that are made of the delimiters of others. -/
theorem inexact_sum_in_list_is_what_it_prints :
    let v := Value.list [.float (0.1 + 0.2), .string "' ')".toList, .vector [.character ']', .int 3]]
    let w := Value.list
      [.float 0.30000000000000004, .string "' ')".toList, .vector [.character ']', .int (1 + 2)]]
    v.text = "(0.30000000000000004 \"' ')\" [']' 3])".toList ∧ v.QuoteFree ∧ w.QuoteFree ∧ v = w := by
  intro v w
  have hquote (x : Float) (n : Int64) : (Value.list [.float x, .string "' ')".toList,
      .vector [.character ']', .int n]]).QuoteFree := by
    have hvector : (Value.vector [.character ']', .int n]).QuoteFree :=
      .vector (List.forall_mem_cons.mpr ⟨.character _, List.forall_mem_singleton.mpr (.int n)⟩)
    exact .list (List.forall_mem_cons.mpr ⟨.float x, List.forall_mem_cons.mpr
      ⟨.string (by decide), List.forall_mem_singleton.mpr hvector⟩⟩)
  have htext : v.text = "(0.30000000000000004 \"' ')\" [']' 3])".toList := by decide +kernel
  have htext' : w.text = "(0.30000000000000004 \"' ')\" [']' 3])".toList := by decide +kernel
  refine ⟨htext, hquote _ _, hquote _ _, ?_⟩
  exact (collections_are_determined_by_their_texts fun _ => true).1 v w (.inl rfl) (.inl rfl)
    (hquote _ _) (hquote _ _) (htext.trans htext'.symm)

end Sexpr
