import Mathlib.Data.List.Induction
import Mathlib.Data.Nat.Digits.Defs
import Sexpr.Parser
import Sexpr.Proofs.Scanning

/-! The grammar of programs, and that the push-down reader decides it. A derivation yields an
expression together with the tokens that it was derived from, so that soundness and completeness
speak of the tree as well. Soundness is carried by what the open forms of a reader have read so far,
completeness by running the reader along a derivation under arbitrary open forms. -/
namespace Sexpr

/-- The value of a run of digits, of which the last one counts the units. -/
def decimalValue (digits : Text) : Nat :=
  Nat.ofDigits 10 (digits.reverse.map fun d => d.toNat - '0'.toNat)

/-- Digits taken from left to right come to the same value. -/
theorem numeralValue_eq_decimalValue (digits : Text) : numeralValue digits = decimalValue digits := by
  induction digits using List.reverseRecOn with
  | nil => rfl
  | append_singleton digits d ih =>
    rw [numeralValue] at ih
    rw [numeralValue, Nat.ofDigitChars_append, ih, Nat.ofDigitChars_cons, Nat.ofDigitChars_nil,
      decimalValue, decimalValue, List.reverse_concat, List.map_cons, Nat.ofDigits_cons, Nat.add_comm]

mutual

/-- One constructor for each production, with the node that it builds. -/
inductive Derives : List Token → Expr → Prop
  | call {o n c : Pos} {name : Text} {ts : List Token} {args : List Expr}
    (hname : name ≠ Expr.defvarWord) (hargs : DerivesAll ts args) :
    Derives (⟨.leftParen, o⟩ :: ⟨.ident name, n⟩ :: ts ++ [⟨.rightParen, c⟩])
      (.call o ⟨name, n⟩ args)
  | defvar {o k n c : Pos} {name : Text} {ts : List Token} {value : Expr}
    (hvalue : Derives ts value) :
    Derives (⟨.leftParen, o⟩ :: ⟨.ident Expr.defvarWord, k⟩ :: ⟨.ident name, n⟩ :: ts ++
      [⟨.rightParen, c⟩]) (.defvar k ⟨name, n⟩ value none)
  | documented {o k n d c : Pos} {name doc : Text} {ts : List Token} {value : Expr}
    (hvalue : Derives ts value) :
    Derives (⟨.leftParen, o⟩ :: ⟨.ident Expr.defvarWord, k⟩ :: ⟨.ident name, n⟩ :: ts ++
      [⟨.string doc, d⟩, ⟨.rightParen, c⟩]) (.defvar k ⟨name, n⟩ value (some ⟨doc, d⟩))
  | list {q o c : Pos} {ts : List Token} {elements : List Expr}
    (helements : DerivesAll ts elements) :
    Derives (⟨.quote, q⟩ :: ⟨.leftParen, o⟩ :: ts ++ [⟨.rightParen, c⟩]) (.list q elements)
  | vector {o c : Pos} {ts : List Token} {elements : List Expr}
    (helements : DerivesAll ts elements) :
    Derives (⟨.leftBracket, o⟩ :: ts ++ [⟨.rightBracket, c⟩]) (.vector o elements)
  | ident {p : Pos} {name : Text} : Derives [⟨.ident name, p⟩] (.ident ⟨name, p⟩)
  | integer {p : Pos} {numeral : Text} {value : Int64}
    (hbound : decimalValue numeral ≤ 0x7FFFFFFFFFFFFFFF) (hvalue : value.toInt = decimalValue numeral) :
    Derives [⟨.integer numeral, p⟩] (.integer ⟨numeral, p⟩ value)
  | float {p : Pos} {numeral : Text} :
    Derives [⟨.float numeral, p⟩] (.float ⟨numeral, p⟩ (Decimal.ofNumeral numeral).toFloat)
  | string {p : Pos} {body : Text} : Derives [⟨.string body, p⟩] (.string ⟨body, p⟩)
  | character {p : Pos} {c : Char} : Derives [⟨.character c, p⟩] (.character ⟨c, p⟩)

inductive DerivesAll : List Token → List Expr → Prop
  | nil : DerivesAll [] []
  | cons {ts us : List Token} {e : Expr} {es : List Expr} (he : Derives ts e)
    (hes : DerivesAll us es) : DerivesAll (ts ++ us) (e :: es)

end

theorem DerivesAll.snoc {ts us : List Token} {es : List Expr} {e : Expr} (hes : DerivesAll ts es)
    (he : Derives us e) : DerivesAll (ts ++ us) (es ++ [e]) := by
  induction es generalizing ts with
  | nil =>
    cases hes
    have h := DerivesAll.cons he .nil
    rwa [List.append_nil] at h
  | cons d es ih =>
    cases hes with
    | cons hd hes =>
      rw [List.append_assoc]
      exact .cons hd (ih hes)

theorem int64?_numeralValue_eq_some_iff {numeral : Text} {value : Int64} :
    int64? (numeralValue numeral) = some value ↔
      decimalValue numeral ≤ 0x7FFFFFFFFFFFFFFF ∧ value.toInt = decimalValue numeral := by
  rw [int64?_eq_some_iff, numeralValue_eq_decimalValue]
  constructor
  · intro h
    have hmax : Int64.maxValue.toInt = 0x7FFFFFFFFFFFFFFF := by decide
    have := value.toInt_le
    exact ⟨by omega, h⟩
  · exact And.right

/-- The tokens from which the open forms, without the innermost expression to come, were read. -/
inductive Opened : List Frame → List Token → Prop
  | nil : Opened [] []
  | call {o n : Pos} {name : Text} {revArgs : List Expr} {frames : List Frame}
    {ts us : List Token} (h : Opened frames ts) (hname : name ≠ Expr.defvarWord)
    (hargs : DerivesAll us revArgs.reverse) :
    Opened (.call o ⟨name, n⟩ revArgs :: frames)
      (ts ++ (⟨.leftParen, o⟩ :: ⟨.ident name, n⟩ :: us))
  | list {q o : Pos} {revElements : List Expr} {frames : List Frame} {ts us : List Token}
    (h : Opened frames ts) (helements : DerivesAll us revElements.reverse) :
    Opened (.list q revElements :: frames) (ts ++ (⟨.quote, q⟩ :: ⟨.leftParen, o⟩ :: us))
  | vector {o : Pos} {revElements : List Expr} {frames : List Frame} {ts us : List Token}
    (h : Opened frames ts) (helements : DerivesAll us revElements.reverse) :
    Opened (.vector o revElements :: frames) (ts ++ (⟨.leftBracket, o⟩ :: us))
  | defvar {o k n : Pos} {name : Text} {frames : List Frame} {ts : List Token}
    (h : Opened frames ts) :
    Opened (.defvar k ⟨name, n⟩ :: frames)
      (ts ++ [⟨.leftParen, o⟩, ⟨.ident Expr.defvarWord, k⟩, ⟨.ident name, n⟩])

def Wanted.Begun : Wanted → List Token → Prop
  | .item, ts => ts = []
  | .callee o, ts => ts = [⟨.leftParen, o⟩]
  | .elements q, ts => ts = [⟨.quote, q⟩]
  | .name k, ts => ∃ o, ts = [⟨.leftParen, o⟩, ⟨.ident Expr.defvarWord, k⟩]
  | .doc k n value, ts => ∃ o us, Derives us value ∧
    ts = ⟨.leftParen, o⟩ :: ⟨.ident Expr.defvarWord, k⟩ :: ⟨.ident n.item, n.pos⟩ :: us
  | .closing k n value d, ts => ∃ o us, Derives us value ∧
    ts = ⟨.leftParen, o⟩ :: ⟨.ident Expr.defvarWord, k⟩ :: ⟨.ident n.item, n.pos⟩ :: us ++
      [⟨.string d.item, d.pos⟩]

/-- The reader has come to its state by taking these tokens. -/
def Reader.HasRead (r : Reader) (ts : List Token) : Prop :=
  ∃ before begun, Opened r.frames before ∧ r.wanted.Begun begun ∧ ts = before ++ begun

def Move.HasRead : Move → List Token → Prop
  | .more r, ts => r.HasRead ts
  | .whole e, ts => Derives ts e
  | .refused _, _ | .spoiled _, _ => True

namespace Reader

theorem hasRead_start : Reader.start.HasRead [] :=
  ⟨[], [], .nil, rfl, rfl⟩

theorem hasRead_item {frames : List Frame} {ts : List Token} (h : Opened frames ts) :
    (Move.more ⟨.item, frames⟩).HasRead ts :=
  ⟨ts, [], h, rfl, (List.append_nil ts).symm⟩

/-- An expression that is complete belongs to the form around it. -/
theorem hasRead_fill {frames : List Frame} {ts us : List Token} {e : Expr} (h : Opened frames ts)
    (he : Derives us e) : (fill e frames).HasRead (ts ++ us) := by
  cases h with
  | nil => exact he
  | call h hname hargs =>
    apply hasRead_item
    rw [List.append_assoc]
    exact .call h hname (by rw [List.reverse_cons]; exact hargs.snoc he)
  | list h helements =>
    apply hasRead_item
    rw [List.append_assoc]
    exact .list h (by rw [List.reverse_cons]; exact helements.snoc he)
  | vector h helements =>
    apply hasRead_item
    rw [List.append_assoc]
    exact .vector h (by rw [List.reverse_cons]; exact helements.snoc he)
  | @defvar o k n name frames ts h =>
    refine ⟨ts, _, h, ⟨o, us, he, rfl⟩, ?_⟩
    rw [List.append_assoc]
    rfl

/-- The token of a leaf makes an expression, and an opening token a form. -/
theorem hasRead_begin {frames : List Frame} {ts : List Token} (h : Opened frames ts) (t : Token) :
    (begin frames t).HasRead (ts ++ [t]) := by
  obtain ⟨l, p⟩ := t
  cases l with
  | leftParen => exact ⟨ts, _, h, rfl, rfl⟩
  | quote => exact ⟨ts, _, h, rfl, rfl⟩
  | leftBracket => exact hasRead_item (.vector h .nil)
  | ident name => exact hasRead_fill h .ident
  | integer numeral =>
    cases hv : int64? (numeralValue numeral) with
    | none =>
      simp only [begin, hv]
      trivial
    | some value =>
      obtain ⟨hbound, hvalue⟩ := int64?_numeralValue_eq_some_iff.mp hv
      simp only [begin, hv]
      exact hasRead_fill h (.integer hbound hvalue)
  | float numeral => exact hasRead_fill h .float
  | string body => exact hasRead_fill h .string
  | character c => exact hasRead_fill h .character
  | _ => trivial

theorem hasRead_itemMove {frames : List Frame} {ts : List Token} (h : Opened frames ts)
    (t : Token) : (item frames t).HasRead (ts ++ [t]) := by
  obtain ⟨l, p⟩ := t
  unfold item
  split
  · rename_i o callee revArgs rest hl
    cases hl
    cases h with
    | call h hname hargs =>
      rw [List.append_assoc]
      exact hasRead_fill h (.call hname hargs)
  · rename_i q revElements rest hl
    cases hl
    cases h with
    | list h helements =>
      rw [List.append_assoc]
      exact hasRead_fill h (.list helements)
  · rename_i o revElements rest hl
    cases hl
    cases h with
    | vector h helements =>
      rw [List.append_assoc]
      exact hasRead_fill h (.vector helements)
  · exact hasRead_begin h ⟨l, p⟩

/-- What a reader has read grows by the token that it takes. -/
theorem hasRead_step {r : Reader} {ts : List Token} (h : r.HasRead ts) (t : Token) :
    (r.step t).HasRead (ts ++ [t]) := by
  obtain ⟨wanted, frames⟩ := r
  obtain ⟨before, begun, hopen, hbegun, rfl⟩ := h
  obtain ⟨l, p⟩ := t
  rw [List.append_assoc]
  cases wanted with
  | item =>
    cases hbegun
    exact hasRead_itemMove hopen ⟨l, p⟩
  | callee o =>
    cases hbegun
    cases l with
    | ident name =>
      by_cases hname : name = Expr.defvarWord
      · simp only [step, hname]
        exact ⟨before, _, hopen, ⟨o, rfl⟩, rfl⟩
      · simp only [step, if_neg hname]
        exact hasRead_item (.call hopen hname .nil)
    | _ => trivial
  | elements q =>
    cases hbegun
    cases l with
    | leftParen => exact hasRead_item (.list hopen .nil)
    | _ => trivial
  | name k =>
    obtain ⟨o, rfl⟩ := hbegun
    cases l with
    | ident name => exact hasRead_item (.defvar hopen)
    | _ => trivial
  | doc k name value =>
    obtain ⟨o, us, hvalue, rfl⟩ := hbegun
    cases l with
    | string body => exact ⟨before, _, hopen, ⟨o, us, hvalue, rfl⟩, rfl⟩
    | rightParen => exact hasRead_fill hopen (.defvar hvalue)
    | _ => trivial
  | closing k name value doc =>
    obtain ⟨o, us, hvalue, rfl⟩ := hbegun
    cases l with
    | rightParen =>
      have h : Derives (⟨.leftParen, o⟩ :: ⟨.ident Expr.defvarWord, k⟩ ::
          ⟨.ident name.item, name.pos⟩ :: us ++ [⟨.string doc.item, doc.pos⟩, ⟨.rightParen, p⟩])
          (.defvar k name value (some doc)) := .documented hvalue
      rw [List.append_assoc]
      exact hasRead_fill hopen h
    | _ => trivial

end Reader

def Move.goOn (stop : Pos) : Move → List Token → Except SyntaxError Program
  | .more r, ts => Program.ofTokens stop r ts
  | .whole e, ts => (e :: ·) <$> Program.ofTokens stop .start ts
  | .refused e, _ | .spoiled e, _ => .error e

namespace Program

variable {stop : Pos}

/-- Reading a program makes one move for each token in front of the end of input. -/
theorem ofTokens_cons {t : Token} (ht : t.isEnd = false) (r : Reader) (ts : List Token) :
    ofTokens stop r (t :: ts) = (r.step t).goOn stop ts := by
  rw [ofTokens]
  simp only [ht, Bool.false_and, Bool.false_eq_true, if_false]
  cases r.step t <;> rfl

theorem step_end (r : Reader) (p : Pos) : r.step ⟨.endOfInput, p⟩ = .refused (.endOfInput p) := by
  obtain ⟨wanted, frames⟩ := r
  cases wanted with
  | item =>
    cases frames with
    | nil => rfl
    | cons f frames => cases f <;> rfl
  | _ => rfl

/-- The end of input acts like the end of a list that stops there. -/
theorem ofTokens_append_end (r : Reader) (ts : List Token) (p : Pos)
    (hts : ∀ t ∈ ts, t.isEnd = false) :
    ofTokens stop r (ts ++ [⟨.endOfInput, p⟩]) = ofTokens p r ts := by
  induction ts generalizing r with
  | nil =>
    simp only [List.nil_append, ofTokens, step_end]
    cases hr : r.isStart <;> simp [Token.isEnd]
  | cons t ts ih =>
    have ih' := fun r => ih r fun u hu => hts u (List.mem_cons_of_mem t hu)
    have ht := hts t List.mem_cons_self
    rw [List.cons_append, ofTokens_cons ht, ofTokens_cons ht]
    cases r.step t with
    | more r => exact ih' r
    | whole e => simp only [Move.goOn, ih']
    | refused e => rfl
    | spoiled e => rfl

/-- The end of input tells a reader no more than its place. -/
theorem parse_eq_ofTokens (source : Text) :
    ∃ p, tokens source = tokensBeforeEnd source ++ [⟨.endOfInput, p⟩] ∧
      Program.parse source = ofTokens p .start (tokensBeforeEnd source) := by
  obtain ⟨p, hts, hall⟩ := exists_tokens_eq source
  refine ⟨p, hts, ?_⟩
  rw [Program.parse, hts]
  exact ofTokens_append_end _ _ p fun t ht => isEnd_of_spelled (hall t ht) t.pos

theorem eq_start_of_isStart {r : Reader} (h : r.isStart = true) : r = .start := by
  unfold Reader.isStart at h
  split at h
  · rfl
  · exact absurd h (by decide)

/-- What a reader makes of tokens is derived from all that it took. -/
theorem derivesAll_of_ofTokens {r : Reader} {ts us : List Token} {p : Program}
    (hread : r.HasRead ts) (hus : ∀ t ∈ us, t.isEnd = false) (h : ofTokens stop r us = .ok p) :
    DerivesAll (ts ++ us) p := by
  -- on the tokens to come; what was read so far is the invariant
  induction us generalizing r ts p with
  | nil =>
    rw [ofTokens] at h
    split at h
    · rename_i hr
      cases h
      cases eq_start_of_isStart hr
      obtain ⟨before, begun, hopen, rfl, rfl⟩ := hread
      cases hopen
      exact .nil
    · cases h
  | cons t us ih =>
    have hus' : ∀ u ∈ us, u.isEnd = false := fun u hu => hus u (List.mem_cons_of_mem t hu)
    have hstep := Reader.hasRead_step hread t
    rw [ofTokens_cons (hus t List.mem_cons_self)] at h
    rw [List.append_cons]
    cases hm : r.step t with
    | more r =>
      rw [hm] at h hstep
      exact ih hstep hus' h
    | whole e =>
      rw [hm] at h hstep
      cases hq : ofTokens stop .start us with
      | error err =>
        rw [Move.goOn, hq] at h
        cases h
      | ok q =>
        rw [Move.goOn, hq] at h
        cases h
        exact .cons hstep (ih Reader.hasRead_start hus' hq)
    | refused e =>
      rw [hm] at h
      cases h
    | spoiled e =>
      rw [hm] at h
      cases h

end Program

/-- Reading the tokens fills the innermost open frame, whatever is open around it. -/
def Fills (ts : List Token) (e : Expr) : Prop :=
  ∀ stop frames rest,
    Program.ofTokens stop ⟨.item, frames⟩ (ts ++ rest) = (Reader.fill e frames).goOn stop rest

def TakesRow (frame : List Expr → Frame) : Prop :=
  ∀ e acc frames, Reader.fill e (frame acc :: frames) = .more ⟨.item, frame (e :: acc) :: frames⟩

def Grows (ts : List Token) (es : List Expr) : Prop :=
  ∀ stop frame, TakesRow frame → ∀ acc frames rest,
    Program.ofTokens stop ⟨.item, frame acc :: frames⟩ (ts ++ rest) =
      Program.ofTokens stop ⟨.item, frame (es.reverse ++ acc) :: frames⟩ rest

theorem grows_nil : Grows [] [] :=
  fun _ _ _ _ _ _ => rfl

/-- A row grows element by element. -/
theorem grows_cons {ts us : List Token} {e : Expr} {es : List Expr} (he : Fills ts e)
    (hes : Grows us es) : Grows (ts ++ us) (e :: es) := by
  intro stop frame hframe acc frames rest
  rw [List.append_assoc, he, hframe]
  change Program.ofTokens stop _ (us ++ rest) = _
  rw [hes stop frame hframe, List.reverse_cons, List.append_assoc]
  rfl

section
open Program

/-- A form that opens a frame, fills it with a row of elements and closes it. -/
theorem fills_row {frame : List Expr → Frame} (hframe : TakesRow frame) {e : Expr}
    {ts : List Token} {es : List Expr} (hes : Grows ts es) {opening : List Token}
    (hopening : ∀ stop frames rest, ofTokens stop ⟨.item, frames⟩ (opening ++ rest) =
      ofTokens stop ⟨.item, frame [] :: frames⟩ rest)
    {close : Token} (hend : close.isEnd = false)
    (hclose : ∀ frames, Reader.step ⟨.item, frame es.reverse :: frames⟩ close =
      Reader.fill e frames) : Fills (opening ++ ts ++ [close]) e := by
  intro stop frames rest
  have hgrow := hes stop frame hframe [] frames (close :: rest)
  rw [List.append_nil, ofTokens_cons hend, hclose] at hgrow
  rw [← hgrow, ← hopening]
  simp only [List.append_assoc, List.cons_append, List.nil_append]

theorem fills_call {o n c : Pos} {name : Text} {ts : List Token} {args : List Expr}
    (hname : name ≠ Expr.defvarWord) (hargs : Grows ts args) :
    Fills (⟨.leftParen, o⟩ :: ⟨.ident name, n⟩ :: ts ++ [⟨.rightParen, c⟩])
      (.call o ⟨name, n⟩ args) := by
  have hopening (stop : Pos) (frames : List Frame) (rest : List Token) :
      ofTokens stop ⟨.item, frames⟩ ([⟨.leftParen, o⟩, ⟨.ident name, n⟩] ++ rest) =
        ofTokens stop ⟨.item, .call o ⟨name, n⟩ [] :: frames⟩ rest := by
    rw [List.cons_append, ofTokens_cons rfl]
    change ofTokens stop ⟨.callee o, frames⟩ (⟨.ident name, n⟩ :: rest) = _
    rw [ofTokens_cons rfl]
    simp only [Reader.step, if_neg hname, Move.goOn]
  apply fills_row (fun _ _ _ => rfl) hargs hopening rfl
  intro frames
  simp only [Reader.step, Reader.item, List.reverse_reverse]

theorem fills_list {q o c : Pos} {ts : List Token} {elements : List Expr}
    (helements : Grows ts elements) :
    Fills (⟨.quote, q⟩ :: ⟨.leftParen, o⟩ :: ts ++ [⟨.rightParen, c⟩]) (.list q elements) := by
  have hopening (stop : Pos) (frames : List Frame) (rest : List Token) :
      ofTokens stop ⟨.item, frames⟩ ([⟨.quote, q⟩, ⟨.leftParen, o⟩] ++ rest) =
        ofTokens stop ⟨.item, .list q [] :: frames⟩ rest := by
    rw [List.cons_append, ofTokens_cons rfl]
    change ofTokens stop ⟨.elements q, frames⟩ (⟨.leftParen, o⟩ :: rest) = _
    rw [ofTokens_cons rfl]
    rfl
  apply fills_row (fun _ _ _ => rfl) helements hopening rfl
  intro frames
  simp only [Reader.step, Reader.item, List.reverse_reverse]

theorem fills_vector {o c : Pos} {ts : List Token} {elements : List Expr}
    (helements : Grows ts elements) :
    Fills (⟨.leftBracket, o⟩ :: ts ++ [⟨.rightBracket, c⟩]) (.vector o elements) := by
  have hopening (stop : Pos) (frames : List Frame) (rest : List Token) :
      ofTokens stop ⟨.item, frames⟩ ([⟨.leftBracket, o⟩] ++ rest) =
        ofTokens stop ⟨.item, .vector o [] :: frames⟩ rest := by
    rw [List.cons_append, ofTokens_cons rfl]
    rfl
  apply fills_row (fun _ _ _ => rfl) helements hopening rfl
  intro frames
  simp only [Reader.step, Reader.item, List.reverse_reverse]

/-- A definition is read up to its value in the same way, documented or not. -/
theorem ofTokens_defvar_append {o k n : Pos} {name : Text} {ts : List Token} {value : Expr}
    (hvalue : Fills ts value) (stop : Pos) (frames : List Frame) (rest : List Token) :
    ofTokens stop ⟨.item, frames⟩
        (⟨.leftParen, o⟩ :: ⟨.ident Expr.defvarWord, k⟩ :: ⟨.ident name, n⟩ :: (ts ++ rest)) =
      ofTokens stop ⟨.doc k ⟨name, n⟩ value, frames⟩ rest := by
  have hfill := hvalue stop (.defvar k ⟨name, n⟩ :: frames) rest
  have hopen : Reader.step ⟨.callee o, frames⟩ ⟨.ident Expr.defvarWord, k⟩ =
      .more ⟨.name k, frames⟩ := by
    simp only [Reader.step, if_true]
  rw [ofTokens_cons rfl]
  change ofTokens stop ⟨.callee o, frames⟩ _ = _
  rw [ofTokens_cons rfl, hopen]
  change ofTokens stop ⟨.name k, frames⟩ _ = _
  rw [ofTokens_cons rfl]
  exact hfill

theorem fills_defvar {o k n c : Pos} {name : Text} {ts : List Token} {value : Expr}
    (hvalue : Fills ts value) :
    Fills (⟨.leftParen, o⟩ :: ⟨.ident Expr.defvarWord, k⟩ :: ⟨.ident name, n⟩ :: ts ++
      [⟨.rightParen, c⟩]) (.defvar k ⟨name, n⟩ value none) := by
  intro stop frames rest
  simp only [List.append_assoc, List.cons_append, List.nil_append]
  rw [ofTokens_defvar_append hvalue, ofTokens_cons rfl]
  rfl

theorem fills_documented {o k n d c : Pos} {name doc : Text} {ts : List Token} {value : Expr}
    (hvalue : Fills ts value) :
    Fills (⟨.leftParen, o⟩ :: ⟨.ident Expr.defvarWord, k⟩ :: ⟨.ident name, n⟩ :: ts ++
      [⟨.string doc, d⟩, ⟨.rightParen, c⟩]) (.defvar k ⟨name, n⟩ value (some ⟨doc, d⟩)) := by
  intro stop frames rest
  simp only [List.append_assoc, List.cons_append, List.nil_append]
  rw [ofTokens_defvar_append hvalue, ofTokens_cons rfl]
  change ofTokens stop ⟨.closing k ⟨name, n⟩ value ⟨doc, d⟩, frames⟩ _ = _
  rw [ofTokens_cons rfl]
  rfl

/-- A token that is complete by itself. -/
theorem fills_leaf {t : Token} {e : Expr} (ht : t.isEnd = false)
    (h : ∀ frames, Reader.step ⟨.item, frames⟩ t = Reader.fill e frames) : Fills [t] e := by
  intro stop frames rest
  rw [List.cons_append, List.nil_append, ofTokens_cons ht, h]

theorem fills_integer {p : Pos} {numeral : Text} {value : Int64}
    (hbound : decimalValue numeral ≤ 0x7FFFFFFFFFFFFFFF)
    (hvalue : value.toInt = decimalValue numeral) :
    Fills [⟨.integer numeral, p⟩] (.integer ⟨numeral, p⟩ value) := by
  have hv := int64?_numeralValue_eq_some_iff.mpr ⟨hbound, hvalue⟩
  apply fills_leaf rfl
  intro frames
  change Reader.begin frames ⟨.integer numeral, p⟩ = _
  simp only [Reader.begin, hv]

mutual

/-- A derived expression is read, whatever is open around it. -/
theorem Derives.fills {ts : List Token} {e : Expr} : Derives ts e → Fills ts e
  | .call hname hargs => fills_call hname hargs.grows
  | .defvar hvalue => fills_defvar hvalue.fills
  | .documented hvalue => fills_documented hvalue.fills
  | .list helements => fills_list helements.grows
  | .vector helements => fills_vector helements.grows
  | .ident => fills_leaf rfl fun _ => rfl
  | .integer hbound hvalue => fills_integer hbound hvalue
  | .float => fills_leaf rfl fun _ => rfl
  | .string => fills_leaf rfl fun _ => rfl
  | .character => fills_leaf rfl fun _ => rfl

theorem DerivesAll.grows {ts : List Token} {es : List Expr} : DerivesAll ts es → Grows ts es
  | .nil => grows_nil
  | .cons he hes => grows_cons he.fills hes.grows

end

end

/-- A derived program is read. -/
theorem ofTokens_of_derivesAll {stop : Pos} {ts : List Token} {p : Program}
    (h : DerivesAll ts p) : Program.ofTokens stop .start ts = .ok p := by
  induction p generalizing ts with
  | nil =>
    cases h
    rfl
  | cons e p ih =>
    cases h with
    | cons he hp =>
      rw [Reader.start, he.fills]
      simp only [Reader.fill, Move.goOn, ih hp]
      rfl

/-- Parsing decides the grammar and finds the tree. -/
theorem Program.parse_eq_ok_iff {source : Text} {p : Program} :
    Program.parse source = .ok p ↔ DerivesAll (tokensBeforeEnd source) p := by
  obtain ⟨stop, -, hparse⟩ := parse_eq_ofTokens source
  rw [hparse]
  constructor
  · exact derivesAll_of_ofTokens Reader.hasRead_start (isEnd_of_mem_tokensBeforeEnd source)
  · exact ofTokens_of_derivesAll

end Sexpr
