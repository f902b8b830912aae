import Mathlib.Data.List.Forall2
import Sexpr.Proofs.Grammar

/-! Nodes written back as tokens. A node keeps the places of some of its tokens; the others, such as
closing parentheses, it implies. The pieces of a parsed program are the tokens it was read from, in
order and with all the places that are kept. -/
namespace Sexpr

/-- A lexeme that a node is written with, and the place of its token if the node keeps it. -/
structure Piece where
  lexeme : Lexeme
  pos? : Option Pos

def Piece.Matches (x : Piece) (t : Token) : Prop :=
  t.item = x.lexeme ∧ ∀ p ∈ x.pos?, t.pos = p

namespace Expr

mutual

def pieces : Expr → List Piece
  | call opening callee args =>
    ⟨.leftParen, some opening⟩ :: ⟨.ident callee.item, some callee.pos⟩ :: piecesAll args ++
      [⟨.rightParen, none⟩]
  | ident name => [⟨.ident name.item, some name.pos⟩]
  | integer numeral _ => [⟨.integer numeral.item, some numeral.pos⟩]
  | float numeral _ => [⟨.float numeral.item, some numeral.pos⟩]
  | string body => [⟨.string body.item, some body.pos⟩]
  | character c => [⟨.character c.item, some c.pos⟩]
  | list quote elements =>
    ⟨.quote, some quote⟩ :: ⟨.leftParen, none⟩ :: piecesAll elements ++ [⟨.rightParen, none⟩]
  | vector opening elements =>
    ⟨.leftBracket, some opening⟩ :: piecesAll elements ++ [⟨.rightBracket, none⟩]
  | defvar keyword name value none =>
    ⟨.leftParen, none⟩ :: ⟨.ident defvarWord, some keyword⟩ :: ⟨.ident name.item, some name.pos⟩ ::
      pieces value ++ [⟨.rightParen, none⟩]
  | defvar keyword name value (some doc) =>
    ⟨.leftParen, none⟩ :: ⟨.ident defvarWord, some keyword⟩ :: ⟨.ident name.item, some name.pos⟩ ::
      pieces value ++ [⟨.string doc.item, some doc.pos⟩, ⟨.rightParen, none⟩]

def piecesAll : List Expr → List Piece
  | [] => []
  | e :: es => e.pieces ++ piecesAll es

end

end Expr

theorem Piece.matches_kept (l : Lexeme) (p : Pos) : Piece.Matches ⟨l, some p⟩ ⟨l, p⟩ :=
  ⟨rfl, fun _ h => Option.some.inj h⟩

theorem Piece.matches_implied (l : Lexeme) (p : Pos) : Piece.Matches ⟨l, none⟩ ⟨l, p⟩ :=
  ⟨rfl, fun _ h => absurd h (Option.not_mem_none _)⟩

open Piece List in
mutual

theorem Derives.pieces_match {ts : List Token} {e : Expr} :
    Derives ts e → Forall₂ Piece.Matches e.pieces ts
  | .call _ hargs =>
    rel_append (.cons (matches_kept _ _) (.cons (matches_kept _ _) hargs.pieces_match))
      (.cons (matches_implied _ _) .nil)
  | .defvar hvalue =>
    rel_append (.cons (matches_implied _ _) (.cons (matches_kept _ _)
      (.cons (matches_kept _ _) hvalue.pieces_match))) (.cons (matches_implied _ _) .nil)
  | .documented hvalue =>
    rel_append (.cons (matches_implied _ _) (.cons (matches_kept _ _)
      (.cons (matches_kept _ _) hvalue.pieces_match)))
      (.cons (matches_kept _ _) (.cons (matches_implied _ _) .nil))
  | .list helements =>
    rel_append (.cons (matches_kept _ _) (.cons (matches_implied _ _) helements.pieces_match))
      (.cons (matches_implied _ _) .nil)
  | .vector helements =>
    rel_append (.cons (matches_kept _ _) helements.pieces_match) (.cons (matches_implied _ _) .nil)
  | .ident => .cons (matches_kept _ _) .nil
  | .integer _ _ => .cons (matches_kept _ _) .nil
  | .float => .cons (matches_kept _ _) .nil
  | .string => .cons (matches_kept _ _) .nil
  | .character => .cons (matches_kept _ _) .nil

theorem DerivesAll.pieces_match {ts : List Token} {es : List Expr} :
    DerivesAll ts es → Forall₂ Piece.Matches (Expr.piecesAll es) ts
  | .nil => .nil
  | .cons he hes => rel_append he.pieces_match hes.pieces_match

end

/-- A source is parsed exactly if the grammar derives its tokens, into the tree of the derivation; the
tree, written back, is those tokens, and every place that it keeps is theirs. -/
theorem parse_accepts_grammar (source : Text) :
    (∀ p, Program.parse source = .ok p ↔ DerivesAll (tokensBeforeEnd source) p) ∧
      ∀ p, Program.parse source = .ok p →
        List.Forall₂ Piece.Matches (Expr.piecesAll p) (tokensBeforeEnd source) := by
  refine ⟨fun p => Program.parse_eq_ok_iff, ?_⟩
  intro p h
  exact (Program.parse_eq_ok_iff.mp h).pieces_match

theorem parse_accepts_documented_list :
    ∃ p, Program.parse "(defvar x '(1 'a') \"d\")".toList = .ok p ∧
      List.Forall₂ Piece.Matches (Expr.piecesAll p)
        (tokensBeforeEnd "(defvar x '(1 'a') \"d\")".toList) := by
  have htokens : tokens "(defvar x '(1 'a') \"d\")".toList =
      [⟨.leftParen, ⟨0, 0⟩⟩, ⟨.ident Expr.defvarWord, ⟨1, 1⟩⟩, ⟨.ident ['x'], ⟨8, 8⟩⟩,
        ⟨.quote, ⟨10, 10⟩⟩, ⟨.leftParen, ⟨11, 11⟩⟩, ⟨.integer ['1'], ⟨12, 12⟩⟩,
        ⟨.character 'a', ⟨14, 14⟩⟩, ⟨.rightParen, ⟨17, 17⟩⟩, ⟨.string ['d'], ⟨19, 19⟩⟩,
        ⟨.rightParen, ⟨22, 22⟩⟩, ⟨.endOfInput, ⟨23, 23⟩⟩] := by
    decide +kernel
  have h : Program.parse "(defvar x '(1 'a') \"d\")".toList =
      .ok [.defvar ⟨1, 1⟩ ⟨['x'], ⟨8, 8⟩⟩
        (.list ⟨10, 10⟩ [.integer ⟨['1'], ⟨12, 12⟩⟩ 1, .character ⟨'a', ⟨14, 14⟩⟩])
        (some ⟨['d'], ⟨19, 19⟩⟩)] := by
    rw [Program.parse, htokens]
    rfl
  exact ⟨_, h, (parse_accepts_grammar _).2 _ h⟩

end Sexpr
