import Sexpr.Proofs.Nodes
import Sexpr.Proofs.Tiling
import Sexpr.Proofs.Trail

/-! Literals from their characters to their values. Every token is as long as its kind allows, and what
the scanner lets into a numeral or between the quotes of a character can always be converted, but for
one case: an integer that does not fit into 64 bits. So a number is refused only for its size, and then
it is an integer. -/
namespace Sexpr

def FloatSpelling (t : Text) : Prop :=
  ∃ whole fraction, t = whole ++ '.' :: fraction ∧ whole ≠ [] ∧
    ∀ d ∈ whole ++ fraction, Lexeme.isDigit d = true

namespace Lexeme

theorem isDigit_of_isNumeral {c : Char} (h : isNumeral c = true) (hc : c ≠ '.') :
    isDigit c = true := by
  simpa [isNumeral, hc] using h

theorem floatSpelling_of_spelled {numeral : Text} (h : (float numeral).Spelled) :
    FloatSpelling numeral := by
  obtain ⟨⟨c, r, hnumeral, hc, hr⟩, hcount⟩ := h
  have hall : ∀ d ∈ numeral, isNumeral d = true := by
    rw [hnumeral]
    refine List.forall_mem_cons.mpr ⟨?_, hr⟩
    simp [isNumeral, hc]
  have hdot : '.' ∈ numeral := List.count_pos_iff.mp (by omega)
  obtain ⟨whole, fraction, rfl⟩ := List.append_of_mem hdot
  rw [List.count_append, List.count_cons_self] at hcount
  have hwhole : '.' ∉ whole := List.count_eq_zero.mp (by omega)
  have hfraction : '.' ∉ fraction := List.count_eq_zero.mp (by omega)
  refine ⟨whole, fraction, rfl, ?_, ?_⟩
  · rintro rfl
    cases hnumeral
    exact absurd hc (by decide)
  · intro d hd
    rcases List.mem_append.mp hd with hd | hd
    · refine isDigit_of_isNumeral (hall d (List.mem_append_left _ hd)) ?_
      rintro rfl
      exact hwhole hd
    · refine isDigit_of_isNumeral (hall d (List.mem_append_right _ (List.mem_cons_of_mem _ hd))) ?_
      rintro rfl
      exact hfraction hd

def isDecimal (t : Text) : Bool :=
  !(t.takeWhile isDigit).isEmpty &&
    match t.dropWhile isDigit with
    | '.' :: fraction => fraction.all isDigit
    | _ => false

theorem isDecimal_of_floatSpelling {t : Text} (h : FloatSpelling t) : isDecimal t = true := by
  obtain ⟨whole, fraction, rfl, hne, hdigits⟩ := h
  obtain ⟨hwhole, hfraction⟩ := List.forall_mem_append.mp hdigits
  have hdot : ∀ c ∈ ('.' :: fraction).head?, isDigit c = false := by
    rintro _ ⟨⟩
    decide
  obtain ⟨htake, hdrop⟩ := takeWhile_append_of_head? hwhole hdot
  simp only [isDecimal, htake, hdrop]
  simpa [hne] using hfraction

def isConverted : Lexeme → Bool
  | integer _ | float _ | character _ => true
  | _ => false

end Lexeme

/-- A literal converted from its text, with all the errors that conversions have: an integer has to fit,
a float has to be a decimal numeral, and a character has to be there. -/
def Token.convert (t : Token) : Except SyntaxError Expr :=
  let literal : Located Text := ⟨t.item.text, t.pos⟩
  match t.item with
  | .integer _ =>
    match int64? (numeralValue literal.item) with
    | some value => .ok (.integer literal value)
    | none => .error (.numberTooLarge literal)
  | .float _ =>
    if Lexeme.isDecimal literal.item then
      .ok (.float literal (Decimal.ofNumeral literal.item).toFloat)
    else .error (.numberTooLarge literal)
  | .character _ =>
    match literal.item.head? with
    | some c => .ok (.character ⟨c, t.pos⟩)
    | none => .error (t.refusal .expression)
  | _ => .error (t.refusal .expression)

inductive Token.ReadsAs : Token → Except SyntaxError Expr → Prop
  | integer {numeral : Text} {p : Pos} {value : Int64}
    (hbound : decimalValue numeral ≤ 0x7FFFFFFFFFFFFFFF)
    (hvalue : value.toInt = decimalValue numeral) :
    ReadsAs ⟨.integer numeral, p⟩ (.ok (.integer ⟨numeral, p⟩ value))
  | tooLarge {numeral : Text} {p : Pos} (hbound : 0x7FFFFFFFFFFFFFFF < decimalValue numeral) :
    ReadsAs ⟨.integer numeral, p⟩ (.error (.numberTooLarge ⟨numeral, p⟩))
  | float {numeral : Text} {p : Pos} (hnumeral : FloatSpelling numeral) :
    ReadsAs ⟨.float numeral, p⟩ (.ok (.float ⟨numeral, p⟩ (Decimal.ofNumeral numeral).toFloat))
  | character {c : Char} {p : Pos} (hc : Unicode.isWhiteSpace c = false) :
    ReadsAs ⟨.character c, p⟩ (.ok (.character ⟨c, p⟩))

def Move.ofLiteral (frames : List Frame) : Except SyntaxError Expr → Move
  | .ok e => Reader.fill e frames
  | .error e => .spoiled e

def integerToken (numeral : Located Text) : Token :=
  ⟨.integer numeral.item, numeral.pos⟩

theorem integerToken_inj {numeral other : Located Text} :
    integerToken numeral = integerToken other ↔ numeral = other := by
  constructor
  · intro h
    obtain ⟨hitem, hpos⟩ := Located.mk.inj h
    obtain ⟨item, pos⟩ := numeral
    obtain ⟨item', pos'⟩ := other
    exact congrArg₂ Located.mk (Lexeme.integer.inj hitem) hpos
  · rintro rfl
    rfl

/-- A numeral is taken with its value, or its value is above all integers of 64 bits. -/
theorem int64?_numeral_cases (numeral : Text) :
    (∃ value : Int64, int64? (numeralValue numeral) = some value ∧
        decimalValue numeral ≤ 0x7FFFFFFFFFFFFFFF ∧ value.toInt = decimalValue numeral) ∨
      int64? (numeralValue numeral) = none ∧ 0x7FFFFFFFFFFFFFFF < decimalValue numeral := by
  cases h : int64? (numeralValue numeral) with
  | some value =>
    obtain ⟨hbound, hvalue⟩ := int64?_numeralValue_eq_some_iff.mp h
    exact .inl ⟨value, rfl, hbound, hvalue⟩
  | none =>
    rw [numeralValue_eq_decimalValue] at h
    rw [int64?_eq_none_iff] at h
    refine .inr ⟨rfl, Nat.lt_of_not_le fun hle => h ⟨?_, ?_⟩⟩
    · have hmin : Int64.minValue.toInt ≤ 0 := by decide
      omega
    · have hmax : Int64.maxValue.toInt = 0x7FFFFFFFFFFFFFFF := by decide
      omega

namespace Reader

/-- Where an expression is wanted, a literal is converted, and of the errors of conversions only the one
about the size of an integer is possible. -/
theorem step_literal {t : Token} (hspelled : t.item.Spelled) (ht : t.item.isConverted = true) :
    t.ReadsAs t.convert ∧ ∀ frames, step ⟨.item, frames⟩ t = .ofLiteral frames t.convert := by
  obtain ⟨l, p⟩ := t
  have hitem (frames : List Frame) (l : Lexeme) (hl : l.isConverted = true) :
      step ⟨.item, frames⟩ ⟨l, p⟩ = begin frames ⟨l, p⟩ := by
    cases l with
    | integer _ | float _ | character _ => cases frames <;> rfl
    | _ => cases hl
  cases l with
  | integer numeral =>
    rcases int64?_numeral_cases numeral with ⟨value, hv, hbound, hvalue⟩ | ⟨hv, hbound⟩
    · have hconvert : Token.convert ⟨.integer numeral, p⟩ = .ok (.integer ⟨numeral, p⟩ value) := by
        simp only [Token.convert, Lexeme.text, hv]
      rw [hconvert]
      refine ⟨.integer hbound hvalue, fun frames => ?_⟩
      rw [hitem frames _ rfl]
      simp only [begin, hv, Move.ofLiteral]
    · have hconvert : Token.convert ⟨.integer numeral, p⟩ =
          .error (.numberTooLarge ⟨numeral, p⟩) := by
        simp only [Token.convert, Lexeme.text, hv]
      rw [hconvert]
      refine ⟨.tooLarge hbound, fun frames => ?_⟩
      rw [hitem frames _ rfl]
      simp only [begin, hv, Move.ofLiteral]
  | float numeral =>
    have hnumeral := Lexeme.floatSpelling_of_spelled hspelled
    have hconvert : Token.convert ⟨.float numeral, p⟩ =
        .ok (.float ⟨numeral, p⟩ (Decimal.ofNumeral numeral).toFloat) :=
      if_pos (Lexeme.isDecimal_of_floatSpelling hnumeral)
    rw [hconvert]
    exact ⟨.float hnumeral, fun frames => hitem frames _ rfl⟩
  | character c => exact ⟨.character hspelled, fun frames => hitem frames _ rfl⟩
  | _ => cases ht

end Reader

def Move.Fits : Move → Token → Prop
  | .more _, t | .whole _, t =>
    ∀ numeral, t = integerToken numeral → decimalValue numeral.item ≤ 0x7FFFFFFFFFFFFFFF
  | .refused e, _ => ∀ numeral, e ≠ .numberTooLarge numeral
  | .spoiled e, t => ∃ numeral, t = integerToken numeral ∧ e = .numberTooLarge numeral ∧
    0x7FFFFFFFFFFFFFFF < decimalValue numeral.item

theorem Token.refusal_ne_numberTooLarge (t : Token) (expected : Expected) (numeral : Located Text) :
    t.refusal expected ≠ .numberTooLarge numeral := by
  obtain ⟨l, p⟩ := t
  cases l <;> exact nofun

namespace Reader

theorem fits_fill {t : Token} (e : Expr) (frames : List Frame)
    (ht : ∀ numeral, t = integerToken numeral → decimalValue numeral.item ≤ 0x7FFFFFFFFFFFFFFF) :
    (fill e frames).Fits t := by
  cases frames with
  | nil => exact ht
  | cons f frames => cases f <;> exact ht

theorem fits_step_integerToken (r : Reader) (numeral : Located Text) :
    (r.step (integerToken numeral)).Fits (integerToken numeral) := by
  obtain ⟨wanted, frames⟩ := r
  cases wanted with
  | item =>
    have hbegin : step ⟨.item, frames⟩ (integerToken numeral) =
        begin frames (integerToken numeral) := by
      cases frames <;> rfl
    rw [hbegin]
    rcases int64?_numeral_cases numeral.item with ⟨value, hv, hbound, -⟩ | ⟨hv, hbound⟩
    · simp only [begin, integerToken, hv]
      refine fits_fill _ frames ?_
      intro other hother
      rw [← integerToken_inj.mp hother]
      exact hbound
    · simp only [begin, integerToken, hv]
      exact ⟨numeral, rfl, rfl, hbound⟩
  | _ => exact fun other => Token.refusal_ne_numberTooLarge _ _ other

/-- Whatever a reader wants, its move tells whether an integer fits. -/
theorem fits_step (r : Reader) (t : Token) : (r.step t).Fits t := by
  by_cases ht : ∃ numeral, t = integerToken numeral
  · obtain ⟨numeral, rfl⟩ := ht
    exact r.fits_step_integerToken numeral
  · have hexplains := r.explains_step t
    cases hm : r.step t with
    | more r' => exact fun numeral h => absurd ⟨numeral, h⟩ ht
    | whole e => exact fun numeral h => absurd ⟨numeral, h⟩ ht
    | refused e =>
      rw [hm] at hexplains
      obtain ⟨expected, rfl⟩ := hexplains
      exact t.refusal_ne_numberTooLarge expected
    | spoiled e =>
      rw [hm] at hexplains
      obtain ⟨numeral, hitem, -⟩ := hexplains
      obtain ⟨l, p⟩ := t
      cases hitem
      exact absurd ⟨⟨numeral, p⟩, rfl⟩ ht

end Reader

namespace Parser

/-- Reading an expression fails for the size of a number exactly if it takes an integer that is too
large. -/
theorem read_eq_numberTooLarge_iff (stop : Pos) (r : Reader) (trail input : List Token) :
    ∃ taken, input = taken ++ (read stop r trail input).2.rest ∧
      ∀ numeral, (read stop r trail input).1 = .error (.numberTooLarge numeral) ↔
        integerToken numeral ∈ taken ∧ 0x7FFFFFFFFFFFFFFF < decimalValue numeral.item := by
  -- an integer that was taken did not stop the reader, so only the last one can be too large
  induction input generalizing r trail with
  | nil =>
    refine ⟨[], rfl, fun numeral => iff_of_false (fun h => ?_) fun h => List.not_mem_nil h.1⟩
    cases h
  | cons t input ih =>
    have hfits := r.fits_step t
    cases hm : r.step t with
    | more r' =>
      rw [hm] at hfits
      obtain ⟨taken, hinput, htaken⟩ := ih r' (t :: trail)
      simp only [read, hm]
      refine ⟨t :: taken, congrArg (t :: ·) hinput, fun numeral => ?_⟩
      rw [htaken, List.mem_cons]
      constructor
      · exact fun h => ⟨.inr h.1, h.2⟩
      · rintro ⟨rfl | h, hbound⟩
        · exact absurd (hfits numeral rfl) (Nat.not_le.mpr hbound)
        · exact ⟨h, hbound⟩
    | whole e =>
      rw [hm] at hfits
      simp only [read, hm]
      refine ⟨[t], rfl, fun numeral => iff_of_false (fun h => ?_) ?_⟩
      · cases h
      · rintro ⟨h, hbound⟩
        cases List.mem_singleton.mp h
        exact absurd (hfits numeral rfl) (Nat.not_le.mpr hbound)
    | refused e =>
      rw [hm] at hfits
      simp only [read, hm]
      refine ⟨[], rfl, fun numeral => iff_of_false (fun h => ?_) fun h => List.not_mem_nil h.1⟩
      exact hfits numeral (Except.error.inj h)
    | spoiled e =>
      rw [hm] at hfits
      obtain ⟨large, rfl, rfl, hbound⟩ := hfits
      simp only [read, hm]
      refine ⟨[integerToken large], rfl, fun numeral => ?_⟩
      rw [List.mem_singleton]
      constructor
      · rintro ⟨⟩
        exact ⟨rfl, hbound⟩
      · rintro ⟨h, -⟩
        rw [integerToken_inj.mp h]

end Parser

/-- The integer tokens are those of the integer nodes, and the nodes have their values. -/
def IntegersOf (ts : List Token) (nodes : List Expr) : Prop :=
  ∀ numeral, integerToken numeral ∈ ts ↔
    ∃ value, Expr.integer numeral value ∈ nodes ∧ value.toInt = decimalValue numeral.item

theorem IntegersOf.append {ts us : List Token} {ns ms : List Expr} (hts : IntegersOf ts ns)
    (hus : IntegersOf us ms) : IntegersOf (ts ++ us) (ns ++ ms) := by
  intro numeral
  simp only [List.mem_append, hts numeral, hus numeral, or_and_right, exists_or]

theorem IntegersOf.integer {numeral : Located Text} {value : Int64}
    (hvalue : value.toInt = decimalValue numeral.item) :
    IntegersOf [integerToken numeral] [.integer numeral value] := by
  intro other
  rw [List.mem_singleton, integerToken_inj]
  constructor
  · rintro rfl
    exact ⟨value, List.mem_singleton_self _, hvalue⟩
  · rintro ⟨value', h, -⟩
    exact (Expr.integer.inj (List.mem_singleton.mp h)).1

mutual

theorem Derives.integersOf {ts : List Token} {e : Expr} : Derives ts e → IntegersOf ts e.nodes
  | .call _ hargs => fun numeral => by
    simpa [Expr.nodes, integerToken] using hargs.integersOf numeral
  | .defvar hvalue => fun numeral => by
    simpa [Expr.nodes, integerToken] using hvalue.integersOf numeral
  | .documented hvalue => fun numeral => by
    simpa [Expr.nodes, integerToken] using hvalue.integersOf numeral
  | .list helements => fun numeral => by
    simpa [Expr.nodes, integerToken] using helements.integersOf numeral
  | .vector helements => fun numeral => by
    simpa [Expr.nodes, integerToken] using helements.integersOf numeral
  | @Derives.integer p numeral value _ hvalue =>
    @IntegersOf.integer ⟨numeral, p⟩ value hvalue
  | .ident => fun numeral => by simp [Expr.nodes, integerToken]
  | .float => fun numeral => by simp [Expr.nodes, integerToken]
  | .string => fun numeral => by simp [Expr.nodes, integerToken]
  | .character => fun numeral => by simp [Expr.nodes, integerToken]

theorem DerivesAll.integersOf {ts : List Token} {es : List Expr} :
    DerivesAll ts es → IntegersOf ts (Expr.nodesAll es)
  | .nil => fun numeral => by simp [Expr.nodesAll]
  | .cons he hes => he.integersOf.append hes.integersOf

end

/-- The token is a part of the source, spelled as its kind is, and a longer one would not stand
there. -/
structure Token.IsMaximalIn (t : Token) (source : Text) : Prop where
  spelled : t.item.Spelled
  exists_around : ∃ before after, source = before ++ (t.item.source ++ after) ∧
    t.pos = Pos.advance ⟨0, 0⟩ before ∧ t.item.EndsAt after

/-- A token in front of the end of input is cut as long as its kind allows. -/
theorem isMaximalIn_of_mem {source : Text} {t : Token} (ht : t ∈ tokens source)
    (hend : t.isEnd = false) : t.IsMaximalIn source := by
  obtain ⟨before, after, hsource, hpos, hspelled⟩ := (scans_tokens source).exists_spelled_of_mem ht
  exact ⟨(hspelled hend).1, before, after, hsource, hpos, (hspelled hend).2⟩

namespace Parser

/-- A call for an expression takes some tokens. It fails for the size of a number exactly if an
integer among them is too large, and otherwise the integers among them are those of the expression. -/
theorem StandsIn.exists_taken_integers {p : Parser} {source : Text} (h : p.StandsIn source) :
    ∃ taken, p.expression.2.consumed = p.consumed ++ taken ∧
      (∀ numeral, p.expression.1 = .error (.numberTooLarge numeral) ↔
        integerToken numeral ∈ taken ∧ 0x7FFFFFFFFFFFFFFF < decimalValue numeral.item) ∧
      ∀ e, p.expression.1 = .ok e → IntegersOf taken e.nodes := by
  obtain ⟨taken, htaken⟩ := h.exists_takes
  obtain ⟨taken', hinput, hlarge⟩ := read_eq_numberTooLarge_iff ⟨0, 0⟩ .start p.trail p.rest
  have htaken' : taken' = taken := List.append_cancel_right (hinput.symm.trans htaken.input_eq)
  rw [htaken'] at hlarge
  refine ⟨taken, htaken.consumed_eq, hlarge, fun e he => ?_⟩
  have hverdict := htaken.verdict
  rw [he] at hverdict
  cases hverdict with
  | whole _ he => exact he.integersOf

end Parser

namespace Program

/-- Where reading stops for the size of a number whatever is behind it, an expression was wanted. -/
theorem spoiled_of_ofTokens {stop : Pos} {r : Reader} {numeral : Located Text}
    (h : ofTokens stop r [integerToken numeral] = .error (.numberTooLarge numeral)) :
    r.wanted = .item ∧ 0x7FFFFFFFFFFFFFFF < decimalValue numeral.item := by
  rw [ofTokens_cons rfl] at h
  have hfits := r.fits_step (integerToken numeral)
  cases hm : r.step (integerToken numeral) with
  | more r' =>
    rw [hm, Move.goOn, ofTokens] at h
    split at h <;> cases h
  | whole e =>
    rw [hm] at h
    cases h
  | refused e =>
    rw [hm] at h hfits
    exact absurd (Except.error.inj h) (hfits numeral)
  | spoiled e =>
    rw [hm] at hfits
    obtain ⟨other, hother, -, hbound⟩ := hfits
    rw [← integerToken_inj.mp hother] at hbound
    refine ⟨?_, hbound⟩
    obtain ⟨wanted, frames⟩ := r
    cases wanted with
    | item => rfl
    | _ => cases hm

/-- Where an expression is wanted, an integer that is too large ends the reading. -/
theorem ofTokens_integerToken {stop : Pos} {r : Reader} (hr : r.wanted = .item) {numeral : Located Text}
    (hbound : 0x7FFFFFFFFFFFFFFF < decimalValue numeral.item) (rest : List Token) :
    ofTokens stop r (integerToken numeral :: rest) = .error (.numberTooLarge numeral) := by
  obtain ⟨wanted, frames⟩ := r
  cases hr
  have hbegin : Reader.step ⟨.item, frames⟩ (integerToken numeral) =
      Reader.begin frames (integerToken numeral) := by
    cases frames <;> rfl
  rcases int64?_numeral_cases numeral.item with ⟨-, -, hle, -⟩ | ⟨hv, -⟩
  · exact absurd hle (Nat.not_le.mpr hbound)
  · rw [ofTokens_cons rfl, hbegin]
    simp only [Reader.begin, integerToken, hv, Move.goOn]

/-- A program is refused for the size of a number exactly if all in front of some integer that is too
large can be read, and an expression is wanted there. -/
theorem parse_eq_numberTooLarge_iff {source : Text} {numeral : Located Text} :
    parse source = .error (.numberTooLarge numeral) ↔
      ∃ before after r, tokens source = before ++ integerToken numeral :: after ∧
        Reader.start.after? before = some r ∧ r.wanted = .item ∧
        0x7FFFFFFFFFFFFFFF < decimalValue numeral.item := by
  constructor
  · intro h
    obtain ⟨pos, htokens, hparse⟩ := parse_eq_ofTokens source
    have hend := isEnd_of_mem_tokensBeforeEnd source
    rw [hparse] at h
    rcases fails_of_ofTokens hend h with ⟨he, -⟩ | ⟨before, t, after, r, heq, hr, ht, hrest⟩
    · cases he
    · cases show t = integerToken numeral from ht
      obtain ⟨hwanted, hbound⟩ := spoiled_of_ofTokens (hrest ⟨0, 0⟩ [])
      refine ⟨before, after ++ [⟨.endOfInput, pos⟩], r, ?_, hr, hwanted, hbound⟩
      rw [htokens, heq, List.append_assoc, List.cons_append]
  · rintro ⟨before, after, r, htokens, hr, hwanted, hbound⟩
    obtain ⟨es, hes⟩ := ofTokens_append_of_after? hr
    rw [parse, htokens, hes, ofTokens_integerToken hwanted hbound]
    rfl

end Program

/-- Tokens are maximal and spelled as their kind is, so that a literal is refused for its size only.
Where an expression is wanted, a number or a character is converted to what it stands for, and of the
errors of conversions only that of an integer that does not fit is possible. So calls for an expression,
and reading a program, fail for the size of a number exactly if they come to an integer that is too
large. -/
theorem numerals_fail_only_on_size (source : Text) :
    (∀ t ∈ tokens source, t.isEnd = false → t.IsMaximalIn source) ∧
      (∀ t ∈ tokens source, t.item.isConverted = true → t.ReadsAs t.convert ∧
        ∀ frames, Reader.step ⟨.item, frames⟩ t = .ofLiteral frames t.convert) ∧
      (∀ n, let p := (Parser.ofSource source).after n
        ∃ taken, p.expression.2.consumed = p.consumed ++ taken ∧
          (∀ numeral, p.expression.1 = .error (.numberTooLarge numeral) ↔
            integerToken numeral ∈ taken ∧ 0x7FFFFFFFFFFFFFFF < decimalValue numeral.item) ∧
          ∀ e, p.expression.1 = .ok e → IntegersOf taken e.nodes) ∧
      (∀ numeral, Program.parse source = .error (.numberTooLarge numeral) ↔
        ∃ before after r, tokens source = before ++ integerToken numeral :: after ∧
          Reader.start.after? before = some r ∧ r.wanted = .item ∧
          0x7FFFFFFFFFFFFFFF < decimalValue numeral.item) ∧
      ∀ p, Program.parse source = .ok p → IntegersOf (tokensBeforeEnd source) (Expr.nodesAll p) := by
  have hmaximal (t : Token) (ht : t ∈ tokens source) : t.isEnd = false → t.IsMaximalIn source :=
    isMaximalIn_of_mem ht
  refine ⟨hmaximal, fun t ht hconverted => ?_, ?_, fun _ => Program.parse_eq_numberTooLarge_iff, ?_⟩
  · have hend : t.isEnd = false := by
      obtain ⟨l, pos⟩ := t
      cases l with
      | endOfInput => cases hconverted
      | _ => rfl
    exact Reader.step_literal (hmaximal t ht hend).spelled hconverted
  · exact fun n => (Parser.StandsIn.after source n).exists_taken_integers
  · exact fun p hp => (Program.parse_eq_ok_iff.mp hp).integersOf

/-- Many leading zeros do no harm, nor does a dot without digits behind it; the least number that does
not fit is refused. -/
theorem leading_zeros_are_read_and_least_excess_is_refused :
    let source := "(f 00000000000000000000000012 1. 9223372036854775808)".toList
    let zeros : Token := ⟨.integer "00000000000000000000000012".toList, ⟨3, 3⟩⟩
    let dotted : Token := ⟨.float "1.".toList, ⟨30, 30⟩⟩
    let large : Located Text := ⟨"9223372036854775808".toList, ⟨33, 33⟩⟩
    zeros.ReadsAs (.ok (.integer ⟨zeros.item.text, zeros.pos⟩ 12)) ∧ dotted.IsMaximalIn source ∧
      dotted.ReadsAs dotted.convert ∧ Program.parse source = .error (.numberTooLarge large) := by
  intro source zeros dotted large
  have htokens : tokens source = [⟨.leftParen, ⟨0, 0⟩⟩, ⟨.ident ['f'], ⟨1, 1⟩⟩, zeros, dotted,
      integerToken large, ⟨.rightParen, ⟨52, 52⟩⟩, ⟨.endOfInput, ⟨53, 53⟩⟩] := by
    decide +kernel
  have hzeros : zeros ∈ tokens source := by simp [htokens]
  have hdotted : dotted ∈ tokens source := by simp [htokens]
  have hconvert : zeros.convert = .ok (.integer ⟨zeros.item.text, zeros.pos⟩ 12) := by
    have hvalue : int64? (numeralValue zeros.item.text) = some 12 := by decide +kernel
    simp only [zeros, Token.convert, Lexeme.text] at hvalue ⊢
    rw [hvalue]
  have hbound : 0x7FFFFFFFFFFFFFFF < decimalValue large.item := by decide +kernel
  have hafter : Reader.start.after? [⟨.leftParen, ⟨0, 0⟩⟩, ⟨.ident ['f'], ⟨1, 1⟩⟩, zeros, dotted] =
      some ⟨.item, [.call ⟨0, 0⟩ ⟨['f'], ⟨1, 1⟩⟩ [.float ⟨dotted.item.text, dotted.pos⟩
        (Decimal.ofNumeral dotted.item.text).toFloat, .integer ⟨zeros.item.text, zeros.pos⟩ 12]]⟩ := by
    rfl
  obtain ⟨hmaximal, hreads, -, hprogram, -⟩ := numerals_fail_only_on_size source
  refine ⟨hconvert ▸ (hreads zeros hzeros rfl).1, hmaximal dotted hdotted rfl,
    (hreads dotted hdotted rfl).1, ?_⟩
  exact (hprogram large).mpr ⟨_, _, _, htokens, hafter, rfl, hbound⟩

end Sexpr
