import Sexpr.Proofs.Nodes
import Sexpr.Proofs.Phrases
import Sexpr.Proofs.Pieces
import Sexpr.Proofs.Placement

/-! The source form of a program, scanned and parsed again. No blank stands behind the parenthesis of
a quoted list, so that a first element that is the character `)` or `]` makes the scanner take the
parenthesis itself for a character between quotes. All other neighbours are scanned as they are meant.
Main statement: a program is read back from its source form exactly if no list in it begins so. -/
namespace Sexpr
open Phrase

namespace Expr

def written (e : Expr) : List Lexeme :=
  e.pieces.map Piece.lexeme

def phrase (e : Expr) : Phrase :=
  ⟨e.text, e.written⟩

def brackets? : Expr → Option (List Lexeme × Lexeme)
  | call .. | defvar .. => some ([.leftParen], .rightParen)
  | list .. => some ([.quote, .leftParen], .rightParen)
  | vector .. => some ([.leftBracket], .rightBracket)
  | _ => none

def parts : Expr → List Phrase
  | call _ callee args => single (.ident callee.item) :: args.map phrase
  | list _ elements => elements.map phrase
  | vector _ elements => elements.map phrase
  | defvar _ name value none =>
    [single (.ident defvarWord), single (.ident name.item), value.phrase]
  | defvar _ name value (some doc) =>
    [single (.ident defvarWord), single (.ident name.item), value.phrase,
      single (.string doc.item)]
  | _ => []

/-- A quoted list that begins with the character `)` or `]`. -/
def opensOnCloser : Expr → Bool
  | list _ (character c :: _) => c.item == ')' || c.item == ']'
  | _ => false

theorem map_piecesAll (es : List Expr) :
    (piecesAll es).map Piece.lexeme = es.flatMap written := by
  induction es with
  | nil => rfl
  | cons e es ih =>
    rw [piecesAll, List.map_append, ih, List.flatMap_cons]
    rfl

theorem phrase_joined_map (sep : Char) (es : List Expr) :
    joined sep (es.map phrase) = ⟨List.intercalate [sep] (es.map text), es.flatMap written⟩ := by
  simp only [joined, List.map_map, List.flatMap_map]
  rfl

theorem phrase_eq_enclosed {e : Expr} {opening : List Lexeme} {close : Lexeme}
    (h : e.brackets? = some (opening, close)) :
    e.phrase = enclosed opening (joined ' ' e.parts) close := by
  cases e with
  | call o callee args =>
    cases h
    have hmeant : (piecesAll args).map Piece.lexeme = (args.map phrase).flatMap meant := by
      rw [map_piecesAll, List.flatMap_map]
      rfl
    have htext : texts args = (args.map phrase).map Phrase.text := by
      rw [texts_eq_map, List.map_map]
      rfl
    simp [phrase, text, written, pieces, spaced, parts, joined, enclosed, single, hmeant, htext,
      Lexeme.source, Lexeme.text]
  | list q elements =>
    cases h
    simp [phrase, text, written, pieces, spaced, parts, phrase_joined_map, enclosed, map_piecesAll,
      texts_eq_map, Lexeme.source, Lexeme.text]
  | vector o elements =>
    cases h
    simp [phrase, text, written, pieces, spaced, parts, phrase_joined_map, enclosed, map_piecesAll,
      texts_eq_map, Lexeme.source, Lexeme.text]
  | defvar k name value doc =>
    cases h
    cases doc <;>
      simp [phrase, text, written, pieces, spaced, parts, joined, enclosed, single, stringText,
        Lexeme.source, Lexeme.text]
  | _ => cases h

/-- An expression without brackets is a single lexeme, and every boundary ends it. -/
theorem phrase_eq_single {e : Expr} (h : e.brackets? = none) :
    ∃ l, e.phrase = single l ∧ e.children = [] ∧ e.opensOnCloser = false ∧
      ∀ rest, Boundary rest → l.EndsAt rest := by
  cases e with
  | ident name => exact ⟨.ident name.item, rfl, rfl, rfl, fun _ hr => (boundary_classes hr).1⟩
  | integer numeral value =>
    exact ⟨.integer numeral.item, rfl, rfl, rfl, fun _ hr => (boundary_classes hr).2.1⟩
  | float numeral value =>
    exact ⟨.float numeral.item, rfl, rfl, rfl, fun _ hr => (boundary_classes hr).2.1⟩
  | string body => exact ⟨.string body.item, rfl, rfl, rfl, fun _ _ => trivial⟩
  | character c =>
    exact ⟨.character c.item, rfl, rfl, rfl, fun _ hr _ => (boundary_classes hr).2.2⟩
  | _ => cases h

theorem phrase_mem_parts {e c : Expr} (h : c ∈ e.children) : c.phrase ∈ e.parts := by
  cases e with
  | call o callee args => exact List.mem_cons_of_mem _ (List.mem_map_of_mem h)
  | list q elements => exact List.mem_map_of_mem h
  | vector o elements => exact List.mem_map_of_mem h
  | defvar k name value doc =>
    cases List.mem_singleton.mp h
    cases doc <;> simp [parts]
  | _ => exact absurd h List.not_mem_nil

/-- A part that is not an expression is a name or a documentation. -/
theorem emits_of_mem_parts {e : Expr} (hs : ∀ l ∈ e.written, l.Spelled) {x : Phrase}
    (hx : x ∈ e.parts) : x.Emits ∨ ∃ c ∈ e.children, x = c.phrase := by
  have hident (name : Text) (hl : Lexeme.ident name ∈ e.written) :
      (single (.ident name)).Emits :=
    emits_single (hs _ hl) fun _ hr => (boundary_classes hr).1
  have hrow {es : List Expr} (h : x ∈ es.map phrase) : ∃ c ∈ es, x = c.phrase := by
    obtain ⟨c, hc, heq⟩ := List.mem_map.mp h
    exact ⟨c, hc, heq.symm⟩
  cases e with
  | call o callee args =>
    rcases List.mem_cons.mp hx with rfl | hx
    · exact .inl (hident _ (by simp [written, pieces]))
    · exact .inr (hrow hx)
  | list q elements => exact .inr (hrow hx)
  | vector o elements => exact .inr (hrow hx)
  | defvar k name value doc =>
    have hword := hident defvarWord
    have hname := hident name.item
    cases doc with
    | none =>
      simp only [parts, List.mem_cons, List.not_mem_nil, or_false] at hx
      rcases hx with rfl | rfl | rfl
      · exact .inl (hword (by simp [written, pieces]))
      · exact .inl (hname (by simp [written, pieces]))
      · exact .inr ⟨value, List.mem_singleton_self value, rfl⟩
    | some doc =>
      simp only [parts, List.mem_cons, List.not_mem_nil, or_false] at hx
      rcases hx with rfl | rfl | rfl | rfl
      · exact .inl (hword (by simp [written, pieces]))
      · exact .inl (hname (by simp [written, pieces]))
      · exact .inr ⟨value, List.mem_singleton_self value, rfl⟩
      · exact .inl (emits_single (hs _ (by simp [written, pieces])) fun _ _ => trivial)
  | _ => exact absurd hx List.not_mem_nil

/-- Only characters and lists are written with a quote in front. -/
theorem exists_text_eq_cons {e : Expr} (hs : ∀ l ∈ e.written, l.Spelled) :
    ∃ c r, e.text = c :: r ∧
      (c = '\'' → (∃ x, e = character x) ∨ ∃ q elements, e = list q elements) := by
  have hnumeral {t : Text} (ht : Lexeme.NumeralSpelling t) :
      ∃ c r, t = c :: r ∧ c ≠ '\'' := by
    obtain ⟨c, r, rfl, hc, -⟩ := ht
    refine ⟨c, r, rfl, ?_⟩
    rintro rfl
    exact absurd hc (by decide)
  cases e with
  | call o callee args => exact ⟨_, _, rfl, fun h => absurd h (by decide)⟩
  | ident name =>
    obtain ⟨hne, hall⟩ : (Lexeme.ident name.item).Spelled := hs _ List.mem_cons_self
    obtain ⟨c, r, hcr⟩ := List.exists_cons_of_ne_nil hne
    refine ⟨c, r, hcr, ?_⟩
    rintro rfl
    have hc := hall '\'' (by rw [hcr]; exact List.mem_cons_self)
    exact absurd hc (by decide)
  | integer numeral value =>
    obtain ⟨hn, -⟩ : (Lexeme.integer numeral.item).Spelled := hs _ List.mem_cons_self
    obtain ⟨c, r, hcr, hc⟩ := hnumeral hn
    exact ⟨c, r, hcr, fun h => absurd h hc⟩
  | float numeral value =>
    obtain ⟨hn, -⟩ : (Lexeme.float numeral.item).Spelled := hs _ List.mem_cons_self
    obtain ⟨c, r, hcr, hc⟩ := hnumeral hn
    exact ⟨c, r, hcr, fun h => absurd h hc⟩
  | string body => exact ⟨_, _, rfl, fun h => absurd h (by decide)⟩
  | character c => exact ⟨_, _, rfl, fun _ => .inl ⟨c, rfl⟩⟩
  | list q elements => exact ⟨_, _, rfl, fun _ => .inr ⟨q, elements, rfl⟩⟩
  | vector o elements => exact ⟨_, _, rfl, fun h => absurd h (by decide)⟩
  | defvar k name value doc => cases doc <;> exact ⟨_, _, rfl, fun h => absurd h (by decide)⟩

/-- A parenthesis and the first element do not make a character literal of the quote in front. -/
theorem opensCharacter_elements {q : Pos} {elements : List Expr}
    (hs : ∀ e ∈ elements, ∀ l ∈ e.written, l.Spelled)
    (hopens : (list q elements).opensOnCloser = false) (rest : Text) :
    Lexeme.opensCharacter ('(' :: (List.intercalate [' '] (elements.map text) ++
      (Lexeme.rightParen.source ++ rest))) = false := by
  cases elements with
  | nil => rfl
  | cons e es =>
    have he := hs e List.mem_cons_self
    obtain ⟨tail, htail⟩ : ∃ tail, List.intercalate [' '] ((e :: es).map text) ++
        (Lexeme.rightParen.source ++ rest) = e.text ++ tail := by
      cases es with
      | nil => exact ⟨_, by simp [List.intercalate]; rfl⟩
      | cons d ds => exact ⟨_, by simp [List.intercalate]; rfl⟩
    obtain ⟨c, r, hcr, hquote⟩ := exists_text_eq_cons he
    rw [htail]
    by_cases hc : c = '\''
    · rcases hquote hc with ⟨x, rfl⟩ | ⟨q', elements', rfl⟩
      · have hx : Unicode.isWhiteSpace x.item = false := he _ List.mem_cons_self
        simp only [opensOnCloser, Bool.or_eq_false_iff, beq_eq_false_iff_ne] at hopens
        simp [text, Lexeme.opensCharacter, Lexeme.goesOnAsList, hx, hopens]
      · rfl
    · rw [hcr]
      simp [Lexeme.opensCharacter, hc]

/-- Unless a form opens on a closer, its opening lexemes are scanned as such. -/
theorem opens_of_not_opensOnCloser {e : Expr} {opening : List Lexeme} {close : Lexeme}
    (h : e.brackets? = some (opening, close)) (hs : ∀ c ∈ e.children, ∀ l ∈ c.written, l.Spelled)
    (hopens : e.opensOnCloser = false) : Opens opening (joined ' ' e.parts) close := by
  have hparen (x : Phrase) : Opens [.leftParen] x .rightParen :=
    opens_single (l := .leftParen) trivial (fun _ => trivial) x _
  cases e with
  | call o callee args =>
    cases h
    exact hparen _
  | list q elements =>
    cases h
    intro rest
    have hquote : Lexeme.EndsAt _ .quote := opensCharacter_elements hs hopens rest
    have hscan := lexemes_source_append (l := .quote) trivial hquote
    have hnext := hparen (joined ' ' (elements.map phrase)) rest
    rw [phrase_joined_map] at hnext
    rw [parts, phrase_joined_map]
    exact hscan.trans (congrArg (Lexeme.quote :: ·) hnext)
  | vector o elements =>
    cases h
    exact opens_single (l := .leftBracket) trivial (fun _ => trivial) _ _
  | defvar k name value doc =>
    cases h
    exact hparen _
  | _ => cases h

/-- The quote, the parenthesis and the next quote are scanned as a character. -/
theorem strays_of_opensOnCloser {e : Expr} (h : e.opensOnCloser = true) : e.phrase.Strays := by
  unfold opensOnCloser at h
  split at h
  · rename_i q x es
    intro rest _ hprefix
    obtain ⟨tail, htail⟩ : ∃ tail, (list q (character x :: es)).text ++ rest =
        (Lexeme.character '(').source ++ x.item :: tail := by
      cases es with
      | nil => exact ⟨_, by simp [text, texts, spaced, List.intercalate, Lexeme.source]; rfl⟩
      | cons d ds => exact ⟨_, by simp [text, texts, spaced, List.intercalate, Lexeme.source]; rfl⟩
    have hend : (Lexeme.character '(').EndsAt (x.item :: tail) := by
      intro _
      simp only [Bool.or_eq_true, beq_iff_eq] at h
      rcases h with h | h <;> simp [Lexeme.goesOnAsList, h]
    have hspelled : (Lexeme.character '(').Spelled := by
      change Unicode.isWhiteSpace '(' = false
      decide
    have hscan := lexemes_source_append hspelled hend
    change (list q (character x :: es)).written <+: lexemes ((list q (character x :: es)).text ++ rest)
      at hprefix
    rw [htail, hscan] at hprefix
    have hhead := List.prefix_iff_eq_append.mp hprefix
    simp [written, pieces] at hhead
  · exact absurd h (by decide)

theorem mem_written_of_mem_children {e c : Expr} (hc : c ∈ e.children) {l : Lexeme}
    (hl : l ∈ c.written) : l ∈ e.written := by
  cases hb : e.brackets? with
  | none =>
    obtain ⟨_, -, hchildren, -⟩ := phrase_eq_single hb
    rw [hchildren] at hc
    exact absurd hc List.not_mem_nil
  | some b =>
    have hmeant : e.written = b.1 ++ (joined ' ' e.parts).meant ++ [b.2] :=
      congrArg meant (phrase_eq_enclosed hb)
    have hpart : l ∈ (joined ' ' e.parts).meant :=
      List.mem_flatMap.mpr ⟨c.phrase, phrase_mem_parts hc, hl⟩
    rw [hmeant]
    exact List.mem_append_left _ (List.mem_append_right _ hpart)

def Decided (nodes : List Expr) (x : Phrase) : Prop :=
  (∀ n ∈ nodes, n.opensOnCloser = false) ∧ x.Emits ∨
    (∃ n ∈ nodes, n.opensOnCloser = true) ∧ x.Strays

theorem Decided.emits_or_strays {nodes : List Expr} {x : Phrase} (h : Decided nodes x) :
    x.Emits ∨ x.Strays :=
  h.imp And.right And.right

/-- A join of expressions and phrases that emit is decided by the expressions. -/
theorem decided_joined {sep : Char} (hsep : sep = ' ' ∨ sep = '\n') {es : List Expr}
    {xs : List Phrase} (hes : ∀ e ∈ es, Decided e.nodes e.phrase) (hmem : ∀ e ∈ es, e.phrase ∈ xs)
    (hxs : ∀ x ∈ xs, x.Emits ∨ ∃ e ∈ es, x = e.phrase) : Decided (nodesAll es) (joined sep xs) := by
  by_cases hbad : ∃ e ∈ es, ∃ n ∈ e.nodes, n.opensOnCloser = true
  · obtain ⟨e, he, n, hn, hopens⟩ := hbad
    have hstrays : e.phrase.Strays := by
      rcases hes e he with ⟨hclean, -⟩ | ⟨-, h⟩
      · exact absurd hopens (by simp [hclean n hn])
      · exact h
    have hall : ∀ x ∈ xs, x.Emits ∨ x.Strays := by
      intro x hx
      rcases hxs x hx with h | ⟨d, hd, rfl⟩
      · exact .inl h
      · exact (hes d hd).emits_or_strays
    exact .inr ⟨⟨n, mem_nodesAll_iff.mpr ⟨e, he, hn⟩, hopens⟩,
      strays_joined hsep hall ⟨e.phrase, hmem e he, hstrays⟩⟩
  · have hclean (e : Expr) (he : e ∈ es) :
        (∀ n ∈ e.nodes, n.opensOnCloser = false) ∧ e.phrase.Emits := by
      rcases hes e he with h | ⟨⟨n, hn, hopens⟩, -⟩
      · exact h
      · exact absurd ⟨e, he, n, hn, hopens⟩ hbad
    refine .inl ⟨?_, emits_joined hsep ?_⟩
    · intro n hn
      obtain ⟨e, he, hne⟩ := mem_nodesAll_iff.mp hn
      exact (hclean e he).1 n hne
    · intro x hx
      rcases hxs x hx with h | ⟨e, he, rfl⟩
      · exact h
      · exact (hclean e he).2

theorem close_of_brackets? {e : Expr} {b : List Lexeme × Lexeme} (h : e.brackets? = some b) :
    b.2 = .rightParen ∨ b.2 = .rightBracket := by
  cases e with
  | call => exact .inl (congrArg Prod.snd (Option.some.inj h)).symm
  | list => exact .inl (congrArg Prod.snd (Option.some.inj h)).symm
  | defvar => exact .inl (congrArg Prod.snd (Option.some.inj h)).symm
  | vector => exact .inr (congrArg Prod.snd (Option.some.inj h)).symm
  | _ => cases h

/-- One list that opens on a closer is enough to spoil the expression, and nothing else does. -/
theorem decided_phrase (e : Expr) : (∀ l ∈ e.written, l.Spelled) → Decided e.nodes e.phrase := by
  induction e using of_children with | h e ih => ?_
  intro hs
  rw [nodes_eq]
  cases hopens : e.opensOnCloser with
  | true => exact .inr ⟨⟨e, List.mem_cons_self, hopens⟩, strays_of_opensOnCloser hopens⟩
  | false =>
    have hchild : ∀ c ∈ e.children, ∀ l ∈ c.written, l.Spelled :=
      fun c hc l hl => hs l (mem_written_of_mem_children hc hl)
    cases hb : e.brackets? with
    | none =>
      obtain ⟨l, hl, hchildren, -, hend⟩ := phrase_eq_single hb
      have hwritten : e.written = [l] := congrArg meant hl
      have hspelled : l.Spelled := hs l (hwritten ▸ List.mem_singleton_self l)
      rw [hchildren, hl]
      exact .inl ⟨by simpa [nodesAll] using hopens, emits_single hspelled hend⟩
    | some b =>
      have hclose := close_of_brackets? hb
      have hbracket := opens_of_not_opensOnCloser hb hchild hopens
      have hparts : Decided (nodesAll e.children) (joined ' ' e.parts) :=
        decided_joined (.inl rfl) (fun c hc => ih c hc (hchild c hc))
          (fun _ hc => phrase_mem_parts hc) fun _ hx => emits_of_mem_parts hs hx
      rw [phrase_eq_enclosed hb]
      rcases hparts with ⟨hclean, hemits⟩ | ⟨⟨n, hn, hnopens⟩, hstrays⟩
      · refine .inl ⟨?_, emits_enclosed hclose hbracket hemits⟩
        intro n hn
        rcases List.mem_cons.mp hn with rfl | hn
        · exact hopens
        · exact hclean n hn
      · exact .inr ⟨⟨n, List.mem_cons_of_mem _ hn, hnopens⟩,
          strays_enclosed hclose hbracket hstrays⟩

theorem parts_mapPos {f : Pos → Pos} {e : Expr}
    (h : ∀ c ∈ e.children, (c.mapPos f).phrase = c.phrase) : (e.mapPos f).parts = e.parts := by
  have hrow {es : List Expr} (hes : ∀ c ∈ es, (c.mapPos f).phrase = c.phrase) :
      (mapPosAll f es).map phrase = es.map phrase := by
    rw [mapPosAll_eq_map, List.map_map]
    exact List.map_congr_left hes
  cases e with
  | call o callee args => exact congrArg (List.cons _) (hrow h)
  | list q elements => exact hrow h
  | vector o elements => exact hrow h
  | defvar k name value doc =>
    have hvalue := h value (List.mem_singleton_self value)
    cases doc <;> simp [mapPos, parts, hvalue, Located.mapPos]
  | _ => rfl

/-- What is written does not depend on places. -/
theorem phrase_mapPos (f : Pos → Pos) (e : Expr) : (e.mapPos f).phrase = e.phrase := by
  induction e using of_children with | h e ih => ?_
  cases hb : e.brackets? with
  | none =>
    cases e <;> first | rfl | cases hb
  | some b =>
    have hb' : (e.mapPos f).brackets? = some b := by
      rw [← hb]
      cases e <;> rfl
    rw [phrase_eq_enclosed hb, phrase_eq_enclosed hb', parts_mapPos ih]

end Expr

theorem phrases_unplaced {p q : Program} (h : q.map Expr.unplaced = p.map Expr.unplaced) :
    q.map Expr.phrase = p.map Expr.phrase := by
  have hforget (r : Program) : (r.map Expr.unplaced).map Expr.phrase = r.map Expr.phrase := by
    rw [List.map_map]
    exact List.map_congr_left fun e _ => Expr.phrase_mapPos _ e
  rw [← hforget q, h, hforget p]

/-- The lexemes of a source that parses are those its program is written with. -/
theorem lexemes_of_parse {s : Text} {p : Program} (h : Program.parse s = .ok p) :
    lexemes s = p.flatMap Expr.written ++ [.endOfInput] ∧
      ∀ l ∈ p.flatMap Expr.written, l.Spelled := by
  have hmatch := (Program.parse_eq_ok_iff.mp h).pieces_match
  have hitems : (tokensBeforeEnd s).map Located.item = p.flatMap Expr.written := by
    rw [← Expr.map_piecesAll]
    have hitem : List.Forall₂ (fun x t => x = t) ((Expr.piecesAll p).map Piece.lexeme)
        ((tokensBeforeEnd s).map Located.item) := by
      rw [List.forall₂_map_left_iff, List.forall₂_map_right_iff]
      exact hmatch.imp fun _ _ hxt => hxt.1.symm
    exact (List.forall₂_eq_eq_eq ▸ hitem).symm
  obtain ⟨q, htokens, hspelled⟩ := exists_tokens_eq s
  constructor
  · rw [lexemes, htokens, List.map_append, hitems]
    rfl
  · intro l hl
    rw [← hitems] at hl
    obtain ⟨t, ht, rfl⟩ := List.mem_map.mp hl
    exact hspelled t ht

/-- A source with the same lexemes is the same program, up to places. -/
theorem map_unplaced_of_parse {s s' : Text} (h : lexemes s = lexemes s') {p : Program}
    (hp : Program.parse s = .ok p) :
    ∃ q, Program.parse s' = .ok q ∧ q.map Expr.unplaced = p.map Expr.unplaced := by
  have hsame := parse_unplaced_congr h
  rw [hp] at hsame
  cases hq : Program.parse s' with
  | error e =>
    rw [hq] at hsame
    cases hsame
  | ok q =>
    rw [hq] at hsame
    exact ⟨q, rfl, (Except.ok.inj hsame).symm⟩

/-- A program is read back from its source form, positions aside, exactly if none of its lists opens
on a closing character. -/
theorem rendering_reparses_iff {s : Text} {p : Program} (h : Program.parse s = .ok p) :
    (∃ q, Program.parse (Program.text p) = .ok q ∧
      q.map Expr.unplaced = p.map Expr.unplaced ∧ Program.text q = Program.text p) ↔
    ∀ e ∈ Expr.nodesAll p, e.opensOnCloser = false := by
  obtain ⟨hlexemes, hspelled⟩ := lexemes_of_parse h
  have hdecided : Expr.Decided (Expr.nodesAll p) (joined '\n' (p.map Expr.phrase)) := by
    apply Expr.decided_joined (.inr rfl)
    · intro e he
      apply Expr.decided_phrase e
      exact fun l hl => hspelled l (List.mem_flatMap.mpr ⟨e, he, hl⟩)
    · exact fun e he => List.mem_map_of_mem he
    · intro x hx
      obtain ⟨e, he, rfl⟩ := List.mem_map.mp hx
      exact .inr ⟨e, he, rfl⟩
  have htext : (joined '\n' (p.map Expr.phrase)).text = Program.text p := by
    rw [Expr.phrase_joined_map]
    rfl
  have hmeant : (joined '\n' (p.map Expr.phrase)).meant = p.flatMap Expr.written := by
    rw [Expr.phrase_joined_map]
  have hboundary : Boundary [] := fun _ hc => absurd hc (Option.not_mem_none _)
  rcases hdecided with ⟨hclean, hemits⟩ | ⟨⟨n, hn, hopens⟩, hstrays⟩
  · refine iff_of_true ?_ hclean
    have hscan := hemits [] hboundary
    rw [htext, hmeant, List.append_nil, lexemes_nil, ← hlexemes] at hscan
    obtain ⟨q, hq, hsame⟩ := map_unplaced_of_parse hscan.symm h
    have hphrases := congrArg (List.map Phrase.text) (phrases_unplaced hsame)
    rw [List.map_map, List.map_map] at hphrases
    exact ⟨q, hq, hsame, congrArg (List.intercalate ['\n']) hphrases⟩
  · refine iff_of_false ?_ fun hclean => absurd hopens (by simp [hclean n hn])
    rintro ⟨q, hq, hsame, -⟩
    have hphrases := congrArg (List.flatMap meant) (phrases_unplaced hsame)
    rw [List.flatMap_map, List.flatMap_map] at hphrases
    have hwritten : q.flatMap Expr.written = p.flatMap Expr.written := hphrases
    apply hstrays [] hboundary
    rw [hmeant, List.append_nil, htext, (lexemes_of_parse hq).1, hwritten]
    exact List.prefix_append _ _

theorem nested_lists_rendering_reparses :
    ∃ p q, Program.parse "(f  '('(1) \"d\") [')' x])".toList = .ok p ∧
      Program.parse (Program.text p) = .ok q ∧
      q.map Expr.unplaced = p.map Expr.unplaced ∧ Program.text q = Program.text p := by
  have htokens : tokens "(f  '('(1) \"d\") [')' x])".toList =
      [⟨.leftParen, ⟨0, 0⟩⟩, ⟨.ident ['f'], ⟨1, 1⟩⟩, ⟨.quote, ⟨4, 4⟩⟩, ⟨.leftParen, ⟨5, 5⟩⟩,
        ⟨.quote, ⟨6, 6⟩⟩, ⟨.leftParen, ⟨7, 7⟩⟩, ⟨.integer ['1'], ⟨8, 8⟩⟩, ⟨.rightParen, ⟨9, 9⟩⟩,
        ⟨.string ['d'], ⟨11, 11⟩⟩, ⟨.rightParen, ⟨14, 14⟩⟩, ⟨.leftBracket, ⟨16, 16⟩⟩,
        ⟨.character ')', ⟨17, 17⟩⟩, ⟨.ident ['x'], ⟨21, 21⟩⟩, ⟨.rightBracket, ⟨22, 22⟩⟩,
        ⟨.rightParen, ⟨23, 23⟩⟩, ⟨.endOfInput, ⟨24, 24⟩⟩] := by
    decide +kernel
  have h : Program.parse "(f  '('(1) \"d\") [')' x])".toList =
      .ok [.call ⟨0, 0⟩ ⟨['f'], ⟨1, 1⟩⟩
        [.list ⟨4, 4⟩ [.list ⟨6, 6⟩ [.integer ⟨['1'], ⟨8, 8⟩⟩ 1], .string ⟨['d'], ⟨11, 11⟩⟩],
          .vector ⟨16, 16⟩ [.character ⟨')', ⟨17, 17⟩⟩, .ident ⟨['x'], ⟨21, 21⟩⟩]]] := by
    rw [Program.parse, htokens]
    rfl
  obtain ⟨q, hq⟩ := (rendering_reparses_iff h).mpr (by decide)
  exact ⟨_, q, h, hq⟩

/-- The blank that the author put in front of the first element is lost. -/
theorem rendering_of_list_opening_on_closer :
    ∃ p, Program.parse "'( ')')".toList = .ok p ∧ Program.text p = "'(')')".toList ∧
      Program.parse (Program.text p) =
        .error (.unexpected .expression ⟨.rightParen, ⟨3, 3⟩⟩) := by
  have htokens : tokens "'( ')')".toList =
      [⟨.quote, ⟨0, 0⟩⟩, ⟨.leftParen, ⟨1, 1⟩⟩, ⟨.character ')', ⟨3, 3⟩⟩, ⟨.rightParen, ⟨6, 6⟩⟩,
        ⟨.endOfInput, ⟨7, 7⟩⟩] := by
    decide +kernel
  have hagain : tokens "'(')')".toList =
      [⟨.character '(', ⟨0, 0⟩⟩, ⟨.rightParen, ⟨3, 3⟩⟩, ⟨.quote, ⟨4, 4⟩⟩, ⟨.rightParen, ⟨5, 5⟩⟩,
        ⟨.endOfInput, ⟨6, 6⟩⟩] := by
    decide +kernel
  have h : Program.parse "'( ')')".toList =
      .ok [.list ⟨0, 0⟩ [.character ⟨')', ⟨3, 3⟩⟩]] := by
    rw [Program.parse, htokens]
    rfl
  have htext : Program.text [.list ⟨0, 0⟩ [.character ⟨')', ⟨3, 3⟩⟩]] = "'(')')".toList := by
    decide
  refine ⟨_, h, htext, ?_⟩
  rw [htext, Program.parse, hagain]
  rfl

end Sexpr
