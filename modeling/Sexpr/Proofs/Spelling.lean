import Sexpr.Lexeme.Scan

/-! How lexemes are spelled and where they end. Every cut hands out a spelled lexeme that ends where
the rest begins, and a spelled lexeme is cut off any rest at which it ends. The two facts together
are the whole of the scanner, so that nothing later opens `cut`. -/
namespace Sexpr.Lexeme
open Unicode

def delimiters : Text :=
  ['(', ')', '[', ']', ':', '\'', '"']

def NumeralSpelling (t : Text) : Prop :=
  ∃ c r, t = c :: r ∧ isDigit c = true ∧ ∀ d ∈ r, isNumeral d = true

/-- The language of each kind of lexeme. The end of input is not cut from anything. -/
def Spelled : Lexeme → Prop
  | ident name => name ≠ [] ∧ ∀ c ∈ name, isIdent c = true
  | integer numeral => NumeralSpelling numeral ∧ numeral.count '.' = 0
  | float numeral => NumeralSpelling numeral ∧ numeral.count '.' = 1
  | string body => '"' ∉ body
  | character c => isWhiteSpace c = false
  | illegal (.character c) =>
    Text.isBlank c = false ∧ c ∉ delimiters ∧ isDigit c = false ∧ isIdent c = false
  | illegal (.unterminatedString body) => '"' ∉ body
  | illegal (.malformedNumber numeral) => NumeralSpelling numeral ∧ 2 ≤ numeral.count '.'
  | endOfInput => False
  | _ => True

def opensCharacter : Text → Bool
  | c :: '\'' :: after => !isWhiteSpace c && !(c == '(' && goesOnAsList after)
  | _ => false

/-- A longer lexeme would not be cut if this text followed. -/
def EndsAt (rest : Text) : Lexeme → Prop
  | ident _ => ∀ c ∈ rest.head?, isIdent c = false
  | integer _ | float _ | illegal (.malformedNumber _) => ∀ c ∈ rest.head?, isNumeral c = false
  | character c => c = '(' → goesOnAsList rest = false
  | quote => opensCharacter rest = false
  | illegal (.unterminatedString _) => rest = []
  | _ => True

/-- An unclosed string has taken all that follows it; every other lexeme can be followed by more. -/
def Closed (l : Lexeme) : Prop :=
  ∀ body, l ≠ illegal (.unterminatedString body)

theorem isIdent_of_mem_delimiters {c : Char} (h : c ∈ delimiters) : isIdent c = false := by
  have hall : delimiters.all (fun d => !isIdent d) = true := by decide
  simpa using List.all_eq_true.mp hall c h

theorem isDigit_of_mem_delimiters {c : Char} (h : c ∈ delimiters) : isDigit c = false := by
  have hall : delimiters.all (fun d => !isDigit d) = true := by decide
  simpa using List.all_eq_true.mp hall c h

/-- Blanks are white space and belong to no lexeme but a string. -/
theorem classes_of_isBlank {c : Char} (h : Text.isBlank c = true) :
    isWhiteSpace c = true ∧ isIdent c = false ∧ isNumeral c = false ∧ isDigit c = false := by
  simp only [Text.isBlank, Bool.or_eq_true, beq_iff_eq] at h
  rcases h with ((rfl | rfl) | rfl) | rfl <;> decide

theorem isIdent_of_isDigit {c : Char} (h : isDigit c = true) : isIdent c = false := by
  have hb : '0'.toNat ≤ c.toNat ∧ c.toNat ≤ '9'.toNat := by
    simpa [isDigit, Char.le_def, UInt32.le_iff_toNat_le] using h
  have hc : c.toNat ∈ List.range' 48 10 := by
    have h0 : '0'.toNat = 48 := rfl
    have h9 : '9'.toNat = 57 := rfl
    rw [List.mem_range'_1]
    omega
  have hall : ∀ n ∈ List.range' 48 10, isIdent (Char.ofNat n) = false := by decide
  simpa using hall c.toNat hc

/-- Outside the delimiters only the class of the first character counts. -/
theorem cut_of_not_mem_delimiters {c : Char} (h : c ∉ delimiters) (rest : Text) :
    cut c rest =
      if isDigit c then (ofNumeral (c :: rest.takeWhile isNumeral), rest.dropWhile isNumeral)
      else if isIdent c then (ident (c :: rest.takeWhile isIdent), rest.dropWhile isIdent)
      else (illegal (.character c), rest) := by
  unfold cut
  split
  all_goals first | rfl | exact absurd (by decide) h

theorem head?_dropWhile_eq_false {p : Char → Bool} (t : Text) :
    ∀ c ∈ (t.dropWhile p).head?, p c = false := by
  intro c hc
  have h := List.head?_dropWhile_not p t
  rw [Option.mem_def.mp hc] at h
  simpa using h

theorem takeWhile_append_of_head? {p : Char → Bool} {t rest : Text}
    (ht : ∀ c ∈ t, p c = true) (hr : ∀ c ∈ rest.head?, p c = false) :
    (t ++ rest).takeWhile p = t ∧ (t ++ rest).dropWhile p = rest := by
  rw [List.takeWhile_append_of_pos ht, List.dropWhile_append_of_pos ht]
  cases rest with
  | nil => simp
  | cons c rest =>
    have hc : p c = false := hr c rfl
    simp [hc]

theorem ofNumeral_cases (numeral : Text) :
    ofNumeral numeral = integer numeral ∧ numeral.count '.' = 0 ∨
      ofNumeral numeral = float numeral ∧ numeral.count '.' = 1 ∨
      ofNumeral numeral = illegal (.malformedNumber numeral) ∧ 2 ≤ numeral.count '.' := by
  rcases h : numeral.count '.' with _ | _ | n <;> simp [ofNumeral, h]

/-- Behind a quote stands the rest of a character, or the quote stands for itself. -/
theorem afterQuote_cases (rest : Text) :
    afterQuote rest = (quote, rest) ∧ opensCharacter rest = false ∨
      ∃ c after, rest = c :: '\'' :: after ∧ afterQuote rest = (character c, after) ∧
        opensCharacter rest = true := by
  unfold afterQuote
  split
  · rename_i c after
    split
    · rename_i h
      refine Or.inl ⟨rfl, ?_⟩
      simp only [Bool.or_eq_true, Bool.and_eq_true] at h
      rcases h with h | h <;> simp [opensCharacter, h]
    · rename_i h
      refine Or.inr ⟨c, after, rfl, rfl, ?_⟩
      simp only [Bool.or_eq_true, not_or, Bool.not_eq_true] at h
      simp [opensCharacter, h]
  · rename_i h
    refine Or.inl ⟨rfl, ?_⟩
    unfold opensCharacter
    split
    · exact absurd rfl (h _ _)
    · rfl

theorem afterDoubleQuote_cases (rest : Text) :
    '"' ∉ rest ∧ afterDoubleQuote rest = (illegal (.unterminatedString rest), []) ∨
      ∃ body after, rest = body ++ '"' :: after ∧ '"' ∉ body ∧
        afterDoubleQuote rest = (string body, after) := by
  have hbody : '"' ∉ rest.takeWhile (· != '"') := by
    intro h
    have hall := List.all_takeWhile (p := (· != '"')) (l := rest)
    have := List.all_eq_true.mp hall _ h
    simp at this
  have hsplit := List.takeWhile_append_dropWhile (p := (· != '"')) (l := rest)
  unfold afterDoubleQuote
  cases hd : rest.dropWhile (· != '"') with
  | nil =>
    rw [hd, List.append_nil] at hsplit
    rw [hsplit] at hbody
    exact Or.inl ⟨hbody, rfl⟩
  | cons c after =>
    have hc : c = '"' := by
      have := head?_dropWhile_eq_false (p := (· != '"')) rest c (by simp [hd])
      simpa using this
    rw [hd, hc] at hsplit
    exact Or.inr ⟨_, after, hsplit.symm, hbody, rfl⟩

theorem spelled_afterQuote (rest : Text) :
    (afterQuote rest).1.Spelled ∧ (afterQuote rest).1.EndsAt (afterQuote rest).2 := by
  rcases afterQuote_cases rest with ⟨he, ho⟩ | ⟨c, after, rfl, he, ho⟩
  · rw [he]
    exact ⟨trivial, ho⟩
  · rw [he]
    simp only [opensCharacter, Bool.and_eq_true, Bool.not_eq_true', Bool.and_eq_false_imp,
      beq_iff_eq] at ho
    exact ho

theorem spelled_afterDoubleQuote (rest : Text) :
    (afterDoubleQuote rest).1.Spelled ∧
      (afterDoubleQuote rest).1.EndsAt (afterDoubleQuote rest).2 := by
  rcases afterDoubleQuote_cases rest with ⟨hn, he⟩ | ⟨body, after, -, hn, he⟩
  · rw [he]
    exact ⟨hn, rfl⟩
  · rw [he]
    exact ⟨hn, trivial⟩

theorem spelled_ofNumeral {numeral rest : Text} (hn : NumeralSpelling numeral)
    (hr : ∀ c ∈ rest.head?, isNumeral c = false) :
    (ofNumeral numeral).Spelled ∧ (ofNumeral numeral).EndsAt rest := by
  rcases ofNumeral_cases numeral with ⟨he, hk⟩ | ⟨he, hk⟩ | ⟨he, hk⟩
  · rw [he]
    exact ⟨⟨hn, hk⟩, hr⟩
  · rw [he]
    exact ⟨⟨hn, hk⟩, hr⟩
  · rw [he]
    exact ⟨⟨hn, hk⟩, hr⟩

/-- A cut hands out a spelled lexeme that ends where the rest begins. -/
theorem spelled_cut {c : Char} (hb : Text.isBlank c = false) (rest : Text) :
    (cut c rest).1.Spelled ∧ (cut c rest).1.EndsAt (cut c rest).2 := by
  by_cases hc : c ∈ delimiters
  · simp only [delimiters, List.mem_cons, List.not_mem_nil, or_false] at hc
    rcases hc with rfl | rfl | rfl | rfl | rfl | rfl | rfl
    · exact ⟨trivial, trivial⟩
    · exact ⟨trivial, trivial⟩
    · exact ⟨trivial, trivial⟩
    · exact ⟨trivial, trivial⟩
    · exact ⟨trivial, trivial⟩
    · exact spelled_afterQuote rest
    · exact spelled_afterDoubleQuote rest
  · -- no delimiter, so the longest run of the class of the first character is cut
    rw [cut_of_not_mem_delimiters hc]
    split
    · rename_i hd
      have hn : NumeralSpelling (c :: rest.takeWhile isNumeral) :=
        ⟨c, _, rfl, hd, fun d h => List.all_eq_true.mp List.all_takeWhile d h⟩
      exact spelled_ofNumeral hn (head?_dropWhile_eq_false rest)
    · rename_i hd
      split
      · rename_i hi
        refine ⟨⟨List.cons_ne_nil _ _, ?_⟩, head?_dropWhile_eq_false rest⟩
        intro d h
        rcases List.mem_cons.mp h with rfl | h
        · exact hi
        · exact List.all_eq_true.mp List.all_takeWhile d h
      · rename_i hi
        exact ⟨⟨hb, hc, by simpa using hd, by simpa using hi⟩, trivial⟩

theorem afterDoubleQuote_of_not_mem {body : Text} (h : '"' ∉ body) (rest : Text) :
    afterDoubleQuote (body ++ '"' :: rest) = (string body, rest) := by
  have hbody : ∀ c ∈ body, (c != '"') = true := by
    intro c hc
    have : c ≠ '"' := fun he => h (he ▸ hc)
    simpa using this
  have hrest : ∀ c ∈ ('"' :: rest).head?, (c != '"') = false := by
    simp
  have ht := takeWhile_append_of_head? hbody hrest
  simp only [afterDoubleQuote, ht.1, ht.2]

theorem cut_of_numeralSpelling {numeral rest : Text} (hn : NumeralSpelling numeral)
    (hr : ∀ c ∈ rest.head?, isNumeral c = false) :
    ∃ c r, numeral = c :: r ∧ Text.isBlank c = false ∧
      cut c (r ++ rest) = (ofNumeral numeral, rest) := by
  obtain ⟨c, r, rfl, hc, hall⟩ := hn
  have hd : c ∉ delimiters := fun h => by simp [isDigit_of_mem_delimiters h] at hc
  have ht := takeWhile_append_of_head? hall hr
  have hb : Text.isBlank c = false := by
    apply Bool.eq_false_iff.mpr
    intro h
    exact absurd ((classes_of_isBlank h).2.2.2.symm.trans hc) (by decide)
  refine ⟨c, r, rfl, hb, ?_⟩
  rw [cut_of_not_mem_delimiters hd, if_pos hc, ht.1, ht.2]

/-- A name is cut whole where no character of a name follows. -/
theorem cut_of_identSpelling {name rest : Text} (hne : name ≠ [])
    (hall : ∀ c ∈ name, isIdent c = true) (hr : ∀ c ∈ rest.head?, isIdent c = false) :
    ∃ c r, name = c :: r ∧ Text.isBlank c = false ∧ cut c (r ++ rest) = (ident name, rest) := by
  obtain ⟨c, r, rfl⟩ := List.exists_cons_of_ne_nil hne
  have hc : isIdent c = true := hall c List.mem_cons_self
  have hd : c ∉ delimiters := fun h => by simp [isIdent_of_mem_delimiters h] at hc
  have hn : isDigit c ≠ true := fun h => by simp [isIdent_of_isDigit h] at hc
  have ht := takeWhile_append_of_head? (fun d h => hall d (List.mem_cons_of_mem c h)) hr
  have hb : Text.isBlank c = false := by
    apply Bool.eq_false_iff.mpr
    intro h
    exact absurd ((classes_of_isBlank h).2.1.symm.trans hc) (by decide)
  refine ⟨c, r, rfl, hb, ?_⟩
  rw [cut_of_not_mem_delimiters hd, if_neg hn, if_pos hc, ht.1, ht.2]

theorem afterQuote_of_opensCharacter_eq_false {rest : Text} (h : opensCharacter rest = false) :
    afterQuote rest = (quote, rest) := by
  rcases afterQuote_cases rest with ⟨hrest, -⟩ | ⟨_, _, -, -, hopens⟩
  · exact hrest
  · exact absurd (h.symm.trans hopens) (by decide)

theorem afterQuote_of_not_isWhiteSpace {c : Char} (hc : isWhiteSpace c = false) {rest : Text}
    (hrest : c = '(' → goesOnAsList rest = false) :
    afterQuote (c :: '\'' :: rest) = (character c, rest) := by
  have hopens : opensCharacter (c :: '\'' :: rest) = true := by
    simpa [opensCharacter, hc, ← Decidable.imp_iff_not_or] using hrest
  rcases afterQuote_cases (c :: '\'' :: rest) with ⟨-, hnot⟩ | ⟨d, after, heq, h, -⟩
  · exact absurd (hopens.symm.trans hnot) (by decide)
  · cases heq
    exact h

/-- A fault is cut off every rest at which it ends, and an unclosed string off none. -/
theorem cut_of_spelled_fault {fault : Fault} (hl : (illegal fault).Spelled) {rest : Text}
    (he : (illegal fault).EndsAt rest) : ∃ c r, (illegal fault).source = c :: r ∧
      Text.isBlank c = false ∧ cut c (r ++ rest) = (illegal fault, rest) := by
  cases fault with
  | character c =>
    obtain ⟨hb, hd, hn, hi⟩ := hl
    refine ⟨c, [], rfl, hb, ?_⟩
    rw [cut_of_not_mem_delimiters hd, if_neg (by simp [hn]), if_neg (by simp [hi])]
    rfl
  | unterminatedString body =>
    have hr : rest = [] := he
    subst hr
    refine ⟨_, _, rfl, by decide, ?_⟩
    change afterDoubleQuote (body ++ []) = (illegal (.unterminatedString body), [])
    rw [List.append_nil]
    rcases afterDoubleQuote_cases body with ⟨-, h⟩ | ⟨_, _, rfl, -⟩
    · exact h
    · exact absurd (List.mem_append_right _ List.mem_cons_self) hl
  | malformedNumber numeral =>
    have h := cut_of_numeralSpelling hl.1 he
    rcases ofNumeral_cases numeral with ⟨-, hk⟩ | ⟨-, hk⟩ | ⟨ho, -⟩
    · exact absurd hl.2 (by omega)
    · exact absurd hl.2 (by omega)
    · rwa [ho] at h

/-- A spelled lexeme is cut off every rest at which it ends. -/
theorem cut_of_spelled {l : Lexeme} (hl : l.Spelled) {rest : Text} (he : l.EndsAt rest) :
    ∃ c r, l.source = c :: r ∧ Text.isBlank c = false ∧ cut c (r ++ rest) = (l, rest) := by
  cases l with
  | leftParen => exact ⟨_, _, rfl, by decide, rfl⟩
  | rightParen => exact ⟨_, _, rfl, by decide, rfl⟩
  | leftBracket => exact ⟨_, _, rfl, by decide, rfl⟩
  | rightBracket => exact ⟨_, _, rfl, by decide, rfl⟩
  | colon => exact ⟨_, _, rfl, by decide, rfl⟩
  | quote => exact ⟨_, _, rfl, by decide, afterQuote_of_opensCharacter_eq_false he⟩
  | character c => exact ⟨_, _, rfl, by decide, afterQuote_of_not_isWhiteSpace hl he⟩
  | string body =>
    refine ⟨_, _, rfl, by decide, ?_⟩
    change afterDoubleQuote ((body ++ ['"']) ++ rest) = (string body, rest)
    rw [List.append_assoc]
    exact afterDoubleQuote_of_not_mem hl rest
  | ident name => exact cut_of_identSpelling hl.1 hl.2 he
  | integer numeral =>
    have h := cut_of_numeralSpelling hl.1 he
    have hk : numeral.count '.' = 0 := hl.2
    rwa [show ofNumeral numeral = integer numeral by simp [ofNumeral, hk]] at h
  | float numeral =>
    have h := cut_of_numeralSpelling hl.1 he
    have hk : numeral.count '.' = 1 := hl.2
    rwa [show ofNumeral numeral = float numeral by simp [ofNumeral, hk]] at h
  | illegal fault => exact cut_of_spelled_fault hl he
  | endOfInput => exact absurd hl id

theorem goesOnAsList_append_blank (rest : Text) {w : Char} (hw : Text.isBlank w = true) (b : Text) :
    goesOnAsList (rest ++ w :: b) = goesOnAsList rest := by
  cases rest with
  | nil => simp [goesOnAsList, (classes_of_isBlank hw).1]
  | cons c rest => rfl

theorem opensCharacter_append_blank {rest : Text} (h : opensCharacter rest = false) {w : Char}
    (hw : Text.isBlank w = true) (b : Text) : opensCharacter (rest ++ w :: b) = false := by
  have hq : w ≠ '\'' := by
    rintro rfl
    exact absurd hw (by decide)
  match rest, h with
  | [], _ =>
    cases b with
    | nil => rfl
    | cons d b =>
      by_cases hd : d = '\''
      · simp [opensCharacter, hd, (classes_of_isBlank hw).1]
      · simp [opensCharacter, hd]
  | [c], _ => simp [opensCharacter, hq]
  | c :: d :: after, h =>
    by_cases hd : d = '\''
    · subst hd
      simpa only [List.cons_append, opensCharacter, goesOnAsList_append_blank after hw b] using h
    · simp [opensCharacter, hd]

theorem head?_append_blank {p : Char → Bool} {rest : Text} (h : ∀ c ∈ rest.head?, p c = false)
    {w : Char} (hw : p w = false) (b : Text) : ∀ c ∈ (rest ++ w :: b).head?, p c = false := by
  cases rest with
  | nil =>
    intro c hc
    cases Option.mem_some.mp hc
    exact hw
  | cons d rest => exact h

/-- Only an unclosed string takes notice of what is appended behind a blank. -/
theorem endsAt_append_blank {l : Lexeme} (hl : l.Closed)
    {rest : Text} (he : l.EndsAt rest) {w : Char} (hw : Text.isBlank w = true) (b : Text) :
    l.EndsAt (rest ++ w :: b) := by
  obtain ⟨-, hi, hn, -⟩ := classes_of_isBlank hw
  cases l with
  | ident name => exact head?_append_blank he hi b
  | integer numeral => exact head?_append_blank he hn b
  | float numeral => exact head?_append_blank he hn b
  | quote => exact opensCharacter_append_blank he hw b
  | character c =>
    intro hc
    rw [goesOnAsList_append_blank rest hw b]
    exact he hc
  | illegal fault =>
    cases fault with
    | character c => trivial
    | unterminatedString body => exact absurd rfl (hl body)
    | malformedNumber numeral => exact head?_append_blank he hn b
  | _ => trivial

/-- Every lexeme ends where the text does. -/
theorem endsAt_nil (l : Lexeme) : l.EndsAt [] := by
  have hhead {p : Char → Bool} : ∀ c ∈ ([] : Text).head?, p c = false :=
    fun _ h => absurd h (Option.not_mem_none _)
  cases l with
  | ident name => exact hhead
  | integer numeral => exact hhead
  | float numeral => exact hhead
  | quote => rfl
  | character c => exact fun _ => rfl
  | illegal fault =>
    cases fault with
    | character c => trivial
    | unterminatedString body => rfl
    | malformedNumber numeral => exact hhead
  | _ => trivial

theorem source_ne_nil {l : Lexeme} (hl : l.Spelled) : l.source ≠ [] := by
  obtain ⟨c, r, hsource, -, -⟩ := cut_of_spelled hl l.endsAt_nil
  rw [hsource]
  exact List.cons_ne_nil c r

end Sexpr.Lexeme
