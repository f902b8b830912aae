import Sexpr.Proofs.Scanning

/-! Texts that are meant to be scanned as certain lexemes. A rendering sets the parts of a form apart
by single blanks and puts delimiters around them, so what a part is scanned as has to hold in front
of every boundary that it can meet. Parts that are scanned as meant can be joined and enclosed, and
one that strays is not mended by what stands around it. -/
namespace Sexpr

def Boundary (rest : Text) : Prop :=
  ∀ c ∈ rest.head?, c ∈ [' ', '\n', ')', ']']

/-- A piece of a rendering, and the lexemes that it is meant to be scanned as. -/
structure Phrase where
  text : Text
  meant : List Lexeme

namespace Phrase

def Emits (x : Phrase) : Prop :=
  ∀ rest, Boundary rest → lexemes (x.text ++ rest) = x.meant ++ lexemes rest

def Strays (x : Phrase) : Prop :=
  ∀ rest, Boundary rest → ¬x.meant <+: lexemes (x.text ++ rest)

def single (l : Lexeme) : Phrase :=
  ⟨l.source, [l]⟩

def joined (sep : Char) (xs : List Phrase) : Phrase :=
  ⟨List.intercalate [sep] (xs.map text), xs.flatMap meant⟩

end Phrase

theorem boundary_classes {rest : Text} (h : Boundary rest) :
    (∀ c ∈ rest.head?, Lexeme.isIdent c = false) ∧
      (∀ c ∈ rest.head?, Lexeme.isNumeral c = false) ∧ Lexeme.goesOnAsList rest = false := by
  cases rest with
  | nil => simp [Lexeme.goesOnAsList]
  | cons c rest =>
    have hc : c ∈ [' ', '\n', ')', ']'] := h c rfl
    obtain ⟨hi, hn, hg⟩ : Lexeme.isIdent c = false ∧ Lexeme.isNumeral c = false ∧
        (!Unicode.isWhiteSpace c && c != ')' && c != ']') = false := by
      simp only [List.mem_cons, List.not_mem_nil, or_false] at hc
      rcases hc with rfl | rfl | rfl | rfl <;> decide
    refine ⟨?_, ?_, hg⟩
    · intro d hd
      cases Option.mem_some.mp hd
      exact hi
    · intro d hd
      cases Option.mem_some.mp hd
      exact hn

namespace Phrase

theorem emits_single {l : Lexeme} (hl : l.Spelled) (he : ∀ rest, Boundary rest → l.EndsAt rest) :
    (single l).Emits := by
  intro rest hrest
  exact lexemes_source_append hl (he rest hrest)

/-- A join is its first phrase, and then a text that is scanned as the others joined. -/
theorem exists_joined_cons {sep : Char} (hsep : sep = ' ' ∨ sep = '\n') (x : Phrase)
    (xs : List Phrase) {rest : Text} (hrest : Boundary rest) :
    ∃ tail, Boundary tail ∧ (joined sep (x :: xs)).text ++ rest = x.text ++ tail ∧
      lexemes tail = lexemes ((joined sep xs).text ++ rest) := by
  cases xs with
  | nil =>
    refine ⟨rest, hrest, ?_, rfl⟩
    simp [joined, List.intercalate]
  | cons y ys =>
    have hblank : ∀ c ∈ [sep], Text.isBlank c = true := by
      intro c hc
      cases List.mem_singleton.mp hc
      rcases hsep with rfl | rfl <;> decide
    refine ⟨[sep] ++ ((joined sep (y :: ys)).text ++ rest), ?_, ?_,
      lexemes_blanks_append hblank _⟩
    · intro c hc
      cases Option.mem_some.mp hc
      rcases hsep with rfl | rfl <;> decide
    · simp [joined, List.intercalate]

/-- Phrases that are scanned as they are meant still are when blanks set them apart. -/
theorem emits_joined {sep : Char} (hsep : sep = ' ' ∨ sep = '\n') {xs : List Phrase}
    (h : ∀ x ∈ xs, x.Emits) : (joined sep xs).Emits := by
  induction xs with
  | nil =>
    intro rest _
    rfl
  | cons x xs ih =>
    intro rest hrest
    obtain ⟨tail, htail, heq, hscan⟩ := exists_joined_cons hsep x xs hrest
    have ih' := ih (fun y hy => h y (List.mem_cons_of_mem x hy)) rest hrest
    rw [heq, h x List.mem_cons_self tail htail, hscan, ih', ← List.append_assoc]
    rfl

/-- Phrases in front of the first one that strays are still scanned as they are meant. -/
theorem strays_joined {sep : Char} (hsep : sep = ' ' ∨ sep = '\n') {xs : List Phrase}
    (h : ∀ x ∈ xs, x.Emits ∨ x.Strays) (hs : ∃ x ∈ xs, x.Strays) : (joined sep xs).Strays := by
  induction xs with
  | nil =>
    obtain ⟨_, hx, _⟩ := hs
    exact absurd hx List.not_mem_nil
  | cons x xs ih =>
    intro rest hrest hprefix
    obtain ⟨tail, htail, heq, hscan⟩ := exists_joined_cons hsep x xs hrest
    have hmeant : (joined sep (x :: xs)).meant = x.meant ++ (joined sep xs).meant := rfl
    rw [heq, hmeant] at hprefix
    by_cases hx : x.Strays
    · exact hx tail htail ((List.prefix_append _ _).trans hprefix)
    · have hemits : x.Emits := (h x List.mem_cons_self).resolve_right hx
      obtain ⟨y, hy, hys⟩ := hs
      have hyxs : y ∈ xs := by
        rcases List.mem_cons.mp hy with rfl | hy
        · exact absurd hys hx
        · exact hy
      rw [hemits tail htail, hscan, List.prefix_append_right_inj] at hprefix
      exact ih (fun z hz => h z (List.mem_cons_of_mem x hz)) ⟨y, hyxs, hys⟩ rest hrest hprefix

def enclosed (opening : List Lexeme) (x : Phrase) (close : Lexeme) : Phrase :=
  ⟨opening.flatMap Lexeme.source ++ x.text ++ close.source, opening ++ x.meant ++ [close]⟩

def Opens (opening : List Lexeme) (x : Phrase) (close : Lexeme) : Prop :=
  ∀ rest, lexemes (opening.flatMap Lexeme.source ++ (x.text ++ (close.source ++ rest))) =
    opening ++ lexemes (x.text ++ (close.source ++ rest))

variable {opening : List Lexeme} {x : Phrase} {close : Lexeme}

theorem Opens.lexemes_enclosed (h : Opens opening x close) (rest : Text) :
    lexemes ((enclosed opening x close).text ++ rest) =
      opening ++ lexemes (x.text ++ (close.source ++ rest)) := by
  rw [← h]
  simp only [enclosed, List.append_assoc]

/-- A lexeme that needs no particular neighbour opens in front of everything. -/
theorem opens_single {l : Lexeme} (hl : l.Spelled) (he : ∀ rest, l.EndsAt rest) (x : Phrase)
    (close : Lexeme) : Opens [l] x close := by
  intro rest
  rw [List.flatMap_singleton]
  exact lexemes_source_append hl (he _)

theorem boundary_close (hclose : close = .rightParen ∨ close = .rightBracket) (rest : Text) :
    Boundary (close.source ++ rest) := by
  intro c hc
  rcases hclose with rfl | rfl <;> cases Option.mem_some.mp hc <;> decide

/-- Brackets keep a phrase as it is meant if they are scanned as brackets. -/
theorem emits_enclosed (hclose : close = .rightParen ∨ close = .rightBracket)
    (hopens : Opens opening x close) (hx : x.Emits) : (enclosed opening x close).Emits := by
  intro rest _
  have hend : lexemes (close.source ++ rest) = close :: lexemes rest := by
    rcases hclose with rfl | rfl
    · exact lexemes_source_append (l := .rightParen) trivial trivial
    · exact lexemes_source_append (l := .rightBracket) trivial trivial
  rw [hopens.lexemes_enclosed, hx _ (boundary_close hclose rest), hend]
  simp only [enclosed, List.append_assoc, List.cons_append, List.nil_append]

/-- What strays between brackets strays with them. -/
theorem strays_enclosed (hclose : close = .rightParen ∨ close = .rightBracket)
    (hopens : Opens opening x close) (hx : x.Strays) : (enclosed opening x close).Strays := by
  intro rest _ hprefix
  rw [hopens.lexemes_enclosed] at hprefix
  have hmeant : opening ++ x.meant <+: (enclosed opening x close).meant :=
    List.prefix_append _ _
  have h := hmeant.trans hprefix
  rw [List.prefix_append_right_inj] at h
  exact hx _ (boundary_close hclose rest) h

end Phrase

end Sexpr
