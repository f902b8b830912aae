import Sexpr.Expr.Tree
import Sexpr.Proofs.Escapes
import Sexpr.Proofs.FloatTexts
import Sexpr.Proofs.WellFormed

/-! What the tree form of a program tells. A name can end in `>`, and so can what encloses it, so where
a name ends is not seen there: only at the end of the outermost definition it turns out how many of the
marks have closed a node. The trees are therefore read together with the endings of the definitions that
are still open, and these have to be as many on both sides. -/
namespace Sexpr

/-- What a tree shows of an expression: kinds, offsets, names, values and documentation, but neither
places in bytes nor the spelling of numerals. -/
inductive Shown
  | call (offset : Nat) (callee : Text) (args : List Shown)
  | ident (offset : Nat) (name : Text)
  | integer (offset : Nat) (value : Int64)
  | float (offset : Nat) (value : Float)
  | string (offset : Nat) (body : Text)
  | character (offset : Nat) (c : Char)
  | list (offset : Nat) (elements : List Shown)
  | vector (offset : Nat) (elements : List Shown)
  | defvar (offset : Nat) (name : Text) (value : Shown) (doc : Option Text)

namespace Expr

mutual

def shown : Expr → Shown
  | call opening callee args => .call opening.offset callee.item (shownAll args)
  | ident name => .ident name.pos.offset name.item
  | integer numeral value => .integer numeral.pos.offset value
  | float numeral value => .float numeral.pos.offset value
  | string body => .string body.pos.offset body.item
  | character c => .character c.pos.offset c.item
  | list quote elements => .list quote.offset (shownAll elements)
  | vector opening elements => .vector opening.offset (shownAll elements)
  | defvar keyword name value doc =>
    .defvar keyword.offset name.item value.shown (doc.map Located.item)

def shownAll : List Expr → List Shown
  | [] => []
  | e :: es => e.shown :: shownAll es

end

theorem shownAll_eq_map (es : List Expr) : shownAll es = es.map shown := by
  induction es with
  | nil => rfl
  | cons e es ih => rw [shownAll, ih, List.map_cons]

def stops : Text :=
  [',', ']', '\n']

def label (name : String) : Text :=
  ' ' :: name.toList ++ [':', ' ']

def docText : Option Text → Text
  | none => []
  | some d => label "documentation" ++ Text.quoted d

def closings : List (Option Text) → Text → Text
  | [], rest => rest
  | doc :: docs, rest => docText doc ++ '>' :: closings docs rest

theorem docText_append_inj {doc doc' : Option Text} {r s : Text}
    (h : docText doc ++ '>' :: r = docText doc' ++ '>' :: s) : doc = doc' ∧ r = s := by
  cases doc with
  | none =>
    cases doc' with
    | none => exact ⟨rfl, (List.cons.inj h).2⟩
    | some d' => exact absurd (List.cons.inj h).1 (by decide)
  | some d =>
    cases doc' with
    | none => exact absurd (List.cons.inj h).1 (by decide)
    | some d' =>
      simp only [docText, List.append_assoc, List.append_cancel_left_eq] at h
      obtain ⟨rfl, hrest⟩ := Text.quoted_append_inj h
      exact ⟨rfl, (List.cons.inj hrest).2⟩

/-- Endings and what follows them can be told apart. -/
theorem closings_inj {docs docs' : List (Option Text)} {r s : Text} (hr : Text.Follows stops r)
    (hs : Text.Follows stops s) (h : closings docs r = closings docs' s) : docs = docs' ∧ r = s := by
  have hend {doc : Option Text} {docs : List (Option Text)} {r s : Text} (hr : Text.Follows stops r)
      (h : r = closings (doc :: docs) s) : False := by
    subst h
    cases doc with
    | none => exact absurd (hr '>' rfl) (by decide)
    | some d => exact absurd (hr ' ' rfl) (by decide)
  induction docs generalizing docs' with
  | nil =>
    cases docs' with
    | nil => exact ⟨rfl, h⟩
    | cons doc docs' => exact (hend hr h).elim
  | cons doc docs ih =>
    cases docs' with
    | nil => exact (hend hs h.symm).elim
    | cons doc' docs' =>
      obtain ⟨rfl, hrest⟩ := docText_append_inj h
      obtain ⟨rfl, hrs⟩ := ih hrest
      exact ⟨rfl, hrs⟩

theorem closings_replicate (k : Nat) (docs : List (Option Text)) (r : Text) :
    closings (List.replicate k none ++ docs) r = List.replicate k '>' ++ closings docs r := by
  induction k with
  | zero => rfl
  | succ k ih =>
    rw [List.replicate_succ, List.cons_append, closings, ih]
    rfl

/-- Some definitions end without documentation, then either nothing ends any more or a definition ends
with one. -/
theorem exists_undocumented (docs : List (Option Text)) : ∃ k rest,
    docs = List.replicate k none ++ rest ∧ ∀ r, Text.Follows stops r →
      ∀ c ∈ (closings rest r).head?, Lexeme.isIdent c = false := by
  induction docs with
  | nil =>
    refine ⟨0, [], rfl, fun r hr c hc => ?_⟩
    have hstops : stops.all (fun d => !Lexeme.isIdent d) = true := by decide
    simpa using List.all_eq_true.mp hstops c (hr c hc)
  | cons doc docs ih =>
    cases doc with
    | none =>
      obtain ⟨k, rest, rfl, hrest⟩ := ih
      exact ⟨k + 1, rest, rfl, hrest⟩
    | some d =>
      refine ⟨0, some d :: docs, rfl, fun r hr c hc => ?_⟩
      cases show c = ' ' from (Option.some.inj hc).symm
      decide

/-- A name that is the last part of its node. It ends where the endings begin, of which there have to be
as many on both sides. -/
theorem name_append_inj {name name' : Text} (hname : ∀ c ∈ name, Lexeme.isIdent c = true)
    (hname' : ∀ c ∈ name', Lexeme.isIdent c = true) {docs docs' : List (Option Text)}
    (hlength : docs.length = docs'.length) {r s : Text} (hr : Text.Follows stops r)
    (hs : Text.Follows stops s)
    (h : name ++ '>' :: closings docs r = name' ++ '>' :: closings docs' s) :
    name = name' ∧ docs = docs' ∧ r = s := by
  obtain ⟨k, rest, rfl, hrest⟩ := exists_undocumented docs
  obtain ⟨k', rest', rfl, hrest'⟩ := exists_undocumented docs'
  have hmarks (n : Nat) : ∀ c ∈ List.replicate n '>', Lexeme.isIdent c = true := by
    intro c hc
    rw [(List.mem_replicate.mp hc).2]
    decide
  have hsplit (name : Text) (n : Nat) (docs : List (Option Text)) (t : Text) :
      name ++ '>' :: closings (List.replicate n none ++ docs) t =
        (name ++ List.replicate (n + 1) '>') ++ closings docs t := by
    rw [closings_replicate, List.replicate_succ, List.append_assoc, List.cons_append]
  rw [hsplit, hsplit] at h
  -- the name and the marks behind it are one run, and what is behind them tells how many marks there are
  obtain ⟨hrun, htail⟩ := Text.append_inj_of_class
    (List.forall_mem_append.mpr ⟨hname, hmarks (k + 1)⟩)
    (List.forall_mem_append.mpr ⟨hname', hmarks (k' + 1)⟩) (hrest r hr) (hrest' s hs) h
  obtain ⟨rfl, rfl⟩ := closings_inj hr hs htail
  have hk : k = k' := by
    rw [List.length_append, List.length_append, List.length_replicate, List.length_replicate]
      at hlength
    omega
  subst hk
  exact ⟨List.append_cancel_right hrun, rfl, rfl⟩

def labelled : Expr → Text
  | call _ callee args =>
    label "callee" ++ callee.item ++ label "arguments" ++ bracketed (args.map tree)
  | ident name => label "value" ++ name.item
  | integer _ value => label "value" ++ Text.ofInt value.toInt
  | float _ value => label "value" ++ FloatStyle.compact.write value
  | string body => label "value" ++ Text.quoted body.item
  | character c => label "value" ++ quotedChar c.item
  | list _ elements => label "elements" ++ bracketed (elements.map tree)
  | vector _ elements => label "elements" ++ bracketed (elements.map tree)
  | defvar _ name value doc =>
    label "name" ++ name.item ++ label "value" ++ value.tree ++ docText (doc.map Located.item)

/-- A tree is its kind, its place and its labelled parts. -/
theorem tree_eq_node (e : Expr) : e.tree = e.node e.labelled := by
  have hcallee : " callee: ".toList = label "callee" := by decide +kernel
  have harguments : " arguments: ".toList = label "arguments" := by decide +kernel
  have hvalue : " value: ".toList = label "value" := by decide +kernel
  have helements : " elements: ".toList = label "elements" := by decide +kernel
  have hname : " name: ".toList = label "name" := by decide +kernel
  have hdoc : " documentation: ".toList = label "documentation" := by decide +kernel
  cases e with
  | call o callee args => rw [tree, labelled, hcallee, harguments, trees_eq_map]
  | ident name => rw [tree, labelled, hvalue]
  | integer numeral value => rw [tree, labelled, hvalue]
  | float numeral value => rw [tree, labelled, hvalue]
  | string body => rw [tree, labelled, hvalue]
  | character c => rw [tree, labelled, hvalue]
  | list q elements => rw [tree, labelled, helements, trees_eq_map]
  | vector o elements => rw [tree, labelled, helements, trees_eq_map]
  | defvar k name value doc =>
    cases doc with
    | none =>
      rw [tree, labelled, hname, hvalue]
      rfl
    | some d =>
      rw [tree, labelled, hname, hvalue, hdoc]
      rfl

theorem exists_labelled_cons (e : Expr) : ∃ t, e.labelled = ' ' :: t := by
  cases e <;> exact ⟨_, rfl⟩

theorem kindName_mem (e : Expr) : e.kindName ∈ ["FunctionCall", "Identifier", "IntegerLiteral",
    "FloatLiteral", "StringLiteral", "CharacterLiteral", "ListLiteral", "VectorLiteral", "DefVar"] := by
  cases e <;> simp [kindName]

/-- The kind and the place of a node stand in front of its parts. -/
theorem tree_append_inj {e d : Expr} {r s : Text} (h : e.tree ++ r = d.tree ++ s) :
    e.kindName = d.kindName ∧ e.pos.offset = d.pos.offset ∧
      e.labelled ++ '>' :: r = d.labelled ++ '>' :: s := by
  have hkind (e : Expr) : ' ' ∉ e.kindName.toList := by
    have hall : ∀ name ∈ ["FunctionCall", "Identifier", "IntegerLiteral", "FloatLiteral",
        "StringLiteral", "CharacterLiteral", "ListLiteral", "VectorLiteral", "DefVar"],
        ' ' ∉ name.toList := by
      decide +kernel
    exact hall _ e.kindName_mem
  have hdigits (n : Nat) : ' ' ∉ Nat.toDigits 10 n := fun hmem =>
    absurd (Text.isDigit_of_mem_toDigits hmem) (by decide)
  have hpos : " pos: ".toList = ' ' :: "pos: ".toList := by decide +kernel
  obtain ⟨t, ht⟩ := e.exists_labelled_cons
  obtain ⟨u, hu⟩ := d.exists_labelled_cons
  have hnode {e : Expr} {t : Text} (r : Text) (ht : e.labelled = ' ' :: t) : e.tree ++ r =
      "<ast.".toList ++ (e.kindName.toList ++ ' ' :: ("pos: ".toList ++
        (Nat.toDigits 10 e.pos.offset ++ ' ' :: (t ++ '>' :: r)))) := by
    have hdef : e.node e.labelled = "<ast.".toList ++ e.kindName.toList ++ " pos: ".toList ++
        Nat.toDigits 10 e.pos.offset ++ e.labelled ++ ['>'] := rfl
    rw [tree_eq_node, hdef, ht, hpos]
    simp only [List.append_assoc, List.cons_append, List.nil_append]
  rw [hnode r ht, hnode s hu, List.append_cancel_left_eq] at h
  obtain ⟨hname, hrest⟩ := Text.append_cons_inj (hkind e) (hkind d) h
  rw [List.append_cancel_left_eq] at hrest
  obtain ⟨hoffset, hparts⟩ := Text.append_cons_inj (hdigits _) (hdigits _) hrest
  refine ⟨String.toList_inj.mp hname, Text.toDigits_inj hoffset, ?_⟩
  rw [ht, hu, List.cons_append, List.cons_append, hparts]

theorem exists_tree_cons (e : Expr) : ∃ c t, e.tree = c :: t ∧ c ∉ stops := by
  have hopen : "<ast.".toList = '<' :: "ast.".toList := by decide +kernel
  have hdef : e.tree = "<ast.".toList ++ e.kindName.toList ++ " pos: ".toList ++
      Nat.toDigits 10 e.pos.offset ++ e.labelled ++ ['>'] := e.tree_eq_node
  rw [hopen] at hdef
  exact ⟨'<', _, hdef, by decide⟩

/-- A name ends at the blank in front of the next part. -/
theorem name_label_inj {name name' : Text} (hname : ∀ c ∈ name, Lexeme.isIdent c = true)
    (hname' : ∀ c ∈ name', Lexeme.isIdent c = true) {part : String} {r s : Text}
    (h : name ++ (label part ++ r) = name' ++ (label part ++ s)) : name = name' ∧ r = s := by
  have hblank {name : Text} (hname : ∀ c ∈ name, Lexeme.isIdent c = true) : ' ' ∉ name := fun hmem =>
    absurd (hname ' ' hmem) (by decide)
  obtain ⟨htext, hrest⟩ := Text.append_cons_inj (hblank hname) (hblank hname') h
  exact ⟨htext, List.append_cancel_left hrest⟩

/-- Two trees with as many definitions open around them agree, together with all endings and what is
behind, only if they show the same. -/
def ToldFrom (e d : Expr) : Prop :=
  ∀ docs docs' r s, docs.length = docs'.length → Text.Follows stops r → Text.Follows stops s →
    e.tree ++ closings docs r = d.tree ++ closings docs' s →
    e.shown = d.shown ∧ docs = docs' ∧ r = s

theorem ToldFrom.readsOff {e d : Expr} (h : e.ToldFrom d) : ReadsOff tree shown stops e d := by
  intro r s hr hs heq
  obtain ⟨hshown, -, hrest⟩ := h [] [] r s rfl hr hs heq
  exact ⟨hshown, hrest⟩

/-- Where the parts of nodes end at a mark of their own. -/
theorem toldFrom_of_labelled {e d : Expr}
    (h : e.kindName = d.kindName → e.pos.offset = d.pos.offset → ∀ x y,
      e.labelled ++ '>' :: x = d.labelled ++ '>' :: y → e.shown = d.shown ∧ x = y) :
    e.ToldFrom d := by
  intro docs docs' r s hlength hr hs heq
  obtain ⟨hkind, hoffset, hparts⟩ := tree_append_inj heq
  obtain ⟨hshown, hclosings⟩ := h hkind hoffset _ _ hparts
  exact ⟨hshown, closings_inj hr hs hclosings⟩

/-- Rows of children are told apart if the children are. -/
theorem row_append_inj {es ds : List Expr} {x y : Text} (htold : ∀ e ∈ es, ∀ d ∈ ds, e.ToldFrom d)
    (h : bracketed (es.map tree) ++ '>' :: x = bracketed (ds.map tree) ++ '>' :: y) :
    shownAll es = shownAll ds ∧ x = y := by
  have hread : ∀ e ∈ es, ∀ d ∈ ds, ReadsOff tree shown stops e d :=
    fun e he d hd => (htold e he d hd).readsOff
  simp only [bracketed, List.append_assoc, List.cons_append, List.cons.injEq, true_and,
    List.nil_append] at h
  obtain ⟨hmap, hrest⟩ := readsOff_intercalate (by decide) hread exists_tree_cons
    (Text.follows_cons (by decide)) (Text.follows_cons (by decide)) (by simp) (by simp) h
  rw [shownAll_eq_map, shownAll_eq_map]
  exact ⟨hmap, (List.cons.inj (List.cons.inj hrest).2).2⟩

theorem Spelled.isIdent_callee {o : Pos} {callee : Located Text} {args : List Expr}
    (h : (call o callee args).Spelled) : ∀ c ∈ callee.item, Lexeme.isIdent c = true :=
  (h (.ident callee.item) (by simp [written, pieces])).2

theorem Spelled.isIdent_ident {name : Located Text} (h : (ident name).Spelled) :
    ∀ c ∈ name.item, Lexeme.isIdent c = true :=
  (h (.ident name.item) (by simp [written, pieces])).2

theorem Spelled.isIdent_defvar {k : Pos} {name : Located Text} {value : Expr}
    {doc : Option (Located Text)} (h : (defvar k name value doc).Spelled) :
    ∀ c ∈ name.item, Lexeme.isIdent c = true :=
  (h (.ident name.item) (by cases doc <;> simp [written, pieces])).2

section

variable {d : Expr}

theorem toldFrom_call {o : Pos} {callee : Located Text} {args : List Expr}
    (he : (call o callee args).Spelled) (hd : d.Spelled)
    (hargs : ∀ c ∈ args, ∀ c' ∈ d.children, c.ToldFrom c') : (call o callee args).ToldFrom d := by
  refine toldFrom_of_labelled fun hkind hoffset x y h => ?_
  cases d with
  | call o' callee' args' =>
    simp only [labelled, List.append_assoc, List.append_cancel_left_eq] at h
    obtain ⟨hcallee, hrow⟩ := name_label_inj he.isIdent_callee hd.isIdent_callee h
    obtain ⟨hshown, hrest⟩ := row_append_inj hargs hrow
    have hoffset : o.offset = o'.offset := hoffset
    have hshown : shownAll args = shownAll args' := hshown
    exact ⟨by rw [shown, shown, hoffset, hcallee, hshown], hrest⟩
  | _ => simp [kindName] at hkind

/-- A variable ends with its name, so the endings around it have to be counted. -/
theorem toldFrom_ident {name : Located Text} (he : (ident name).Spelled) (hd : d.Spelled) :
    (ident name).ToldFrom d := by
  intro docs docs' r s hlength hr hs heq
  obtain ⟨hkind, hoffset, h⟩ := tree_append_inj heq
  cases d with
  | ident name' =>
    simp only [labelled, List.append_assoc, List.append_cancel_left_eq] at h
    obtain ⟨hname, hrest⟩ := name_append_inj he.isIdent_ident hd.isIdent_ident hlength hr hs h
    exact ⟨congrArg₂ Shown.ident hoffset hname, hrest⟩
  | _ => simp [kindName] at hkind

theorem toldFrom_integer (numeral : Located Text) (value : Int64) :
    (integer numeral value).ToldFrom d := by
  refine toldFrom_of_labelled fun hkind hoffset x y h => ?_
  cases d with
  | integer numeral' value' =>
    have hmark (n : Int) : '>' ∉ Text.ofInt n := fun hmem =>
      absurd (Text.mem_ofInt hmem) (by decide)
    simp only [labelled, List.append_assoc, List.append_cancel_left_eq] at h
    obtain ⟨hvalue, hrest⟩ := Text.append_cons_inj (hmark _) (hmark _) h
    have hvalue : value = value' := Int64.toInt_inj.mp (Text.ofInt_inj hvalue)
    exact ⟨congrArg₂ Shown.integer hoffset hvalue, hrest⟩
  | _ => simp [kindName] at hkind

theorem toldFrom_float (numeral : Located Text) (value : Float) :
    (float numeral value).ToldFrom d := by
  refine toldFrom_of_labelled fun hkind hoffset x y h => ?_
  cases d with
  | float numeral' value' =>
    have hmark (x : Float) : '>' ∉ FloatStyle.compact.write x := fun hmem =>
      absurd (FloatStyle.mem_write hmem) (by decide)
    simp only [labelled, List.append_assoc, List.append_cancel_left_eq] at h
    obtain ⟨hvalue, hrest⟩ := Text.append_cons_inj (hmark _) (hmark _) h
    exact ⟨congrArg₂ Shown.float hoffset (FloatStyle.write_inj hvalue), hrest⟩
  | _ => simp [kindName] at hkind

theorem toldFrom_string (body : Located Text) : (string body).ToldFrom d := by
  refine toldFrom_of_labelled fun hkind hoffset x y h => ?_
  cases d with
  | string body' =>
    simp only [labelled, List.append_assoc, List.append_cancel_left_eq] at h
    obtain ⟨hbody, hrest⟩ := Text.quoted_append_inj h
    exact ⟨congrArg₂ Shown.string hoffset hbody, (List.cons.inj hrest).2⟩
  | _ => simp [kindName] at hkind

theorem toldFrom_character (c : Located Char) : (character c).ToldFrom d := by
  refine toldFrom_of_labelled fun hkind hoffset x y h => ?_
  cases d with
  | character c' =>
    simp only [labelled, List.append_assoc, List.append_cancel_left_eq] at h
    obtain ⟨hc, hrest⟩ := quotedChar_append_inj h
    exact ⟨congrArg₂ Shown.character hoffset hc, (List.cons.inj hrest).2⟩
  | _ => simp [kindName] at hkind

theorem toldFrom_list (q : Pos) {elements : List Expr}
    (helements : ∀ c ∈ elements, ∀ c' ∈ d.children, c.ToldFrom c') :
    (list q elements).ToldFrom d := by
  refine toldFrom_of_labelled fun hkind hoffset x y h => ?_
  cases d with
  | list q' elements' =>
    simp only [labelled, List.append_assoc, List.append_cancel_left_eq] at h
    obtain ⟨hshown, hrest⟩ := row_append_inj helements h
    exact ⟨congrArg₂ Shown.list hoffset hshown, hrest⟩
  | _ => simp [kindName] at hkind

theorem toldFrom_vector (o : Pos) {elements : List Expr}
    (helements : ∀ c ∈ elements, ∀ c' ∈ d.children, c.ToldFrom c') :
    (vector o elements).ToldFrom d := by
  refine toldFrom_of_labelled fun hkind hoffset x y h => ?_
  cases d with
  | vector o' elements' =>
    simp only [labelled, List.append_assoc, List.append_cancel_left_eq] at h
    obtain ⟨hshown, hrest⟩ := row_append_inj helements h
    exact ⟨congrArg₂ Shown.vector hoffset hshown, hrest⟩
  | _ => simp [kindName] at hkind

/-- The end of a definition is one more ending behind its value. -/
theorem toldFrom_defvar {k : Pos} {name : Located Text} {value : Expr} {doc : Option (Located Text)}
    (he : (defvar k name value doc).Spelled) (hd : d.Spelled)
    (hvalue : ∀ c' ∈ d.children, value.ToldFrom c') : (defvar k name value doc).ToldFrom d := by
  intro docs docs' r s hlength hr hs heq
  obtain ⟨hkind, hoffset, h⟩ := tree_append_inj heq
  cases d with
  | defvar k' name' value' doc' =>
    simp only [labelled, List.append_assoc, List.append_cancel_left_eq] at h
    obtain ⟨hname, htree⟩ := name_label_inj he.isIdent_defvar hd.isIdent_defvar h
    obtain ⟨hshown, hdocs, hrest⟩ := hvalue value' (List.mem_singleton_self _)
      (doc.map Located.item :: docs) (doc'.map Located.item :: docs') r s
      (congrArg (· + 1) hlength) hr hs htree
    obtain ⟨hdoc, hdocs⟩ := List.cons.inj hdocs
    have hoffset : k.offset = k'.offset := hoffset
    exact ⟨by rw [shown, shown, hoffset, hname, hshown, hdoc], hdocs, hrest⟩
  | _ => simp [kindName] at hkind

end

/-- Every tree is told from every other. -/
theorem toldFrom (e : Expr) : e.Spelled → ∀ d : Expr, d.Spelled → e.ToldFrom d := by
  induction e using of_children with | h e ih => ?_
  intro he d hd
  have hchildren : ∀ c ∈ e.children, ∀ c' ∈ d.children, c.ToldFrom c' := fun c hc c' hc' =>
    ih c hc (he.of_mem_children hc) c' (hd.of_mem_children hc')
  cases e with
  | call o callee args => exact toldFrom_call he hd hchildren
  | ident name => exact toldFrom_ident he hd
  | integer numeral value => exact toldFrom_integer numeral value
  | float numeral value => exact toldFrom_float numeral value
  | string body => exact toldFrom_string body
  | character c => exact toldFrom_character c
  | list q elements => exact toldFrom_list q hchildren
  | vector o elements => exact toldFrom_vector o hchildren
  | defvar k name value doc =>
    exact toldFrom_defvar he hd (hchildren value (List.mem_singleton_self value))

end Expr

/-- The trees of two programs agree only if the programs have the same statements, node by node: kinds,
offsets, names, values and documentation. -/
theorem trees_tell_programs_apart {source source' : Text} {p q : Program}
    (hp : Program.parse source = .ok p) (hq : Program.parse source' = .ok q)
    (h : Program.tree p = Program.tree q) : p.map Expr.shown = q.map Expr.shown := by
  have hspelled {source : Text} {p : Program} (hp : Program.parse source = .ok p) :
      ∀ e ∈ p, e.Spelled := fun e he l hl =>
    (lexemes_of_parse hp).2 l (List.mem_flatMap.mpr ⟨e, he, hl⟩)
  have hread : ∀ e ∈ p, ∀ d ∈ q, ReadsOff Expr.tree Expr.shown Expr.stops e d := fun e he d hd =>
    (e.toldFrom (hspelled hp e he) d (hspelled hq d hd)).readsOff
  exact (readsOff_intercalate (by decide) hread Expr.exists_tree_cons (Text.follows_nil _)
    (Text.follows_nil _) nofun nofun (congrArg (· ++ []) h)).1

/-- The two sources differ in the spelling of a number, which the trees do not show. The name ends in the
same mark as the nodes around it. -/
theorem trees_of_one_number_spelled_twice :
    let source := "(defvar a> [x> 07] \"d\")".toList
    let source' := "(defvar a> [x> 7 ] \"d\")".toList
    ∃ p q, Program.parse source = .ok p ∧ Program.parse source' = .ok q ∧
      Program.tree p = Program.tree q ∧ p.map Expr.shown = q.map Expr.shown := by
  intro source source'
  let program (numeral : Text) : Program := [.defvar ⟨1, 1⟩ ⟨"a>".toList, ⟨8, 8⟩⟩
    (.vector ⟨11, 11⟩ [.ident ⟨"x>".toList, ⟨12, 12⟩⟩,
      .integer ⟨numeral, ⟨15, 15⟩⟩ 7]) (some ⟨['d'], ⟨19, 19⟩⟩)]
  have htokens : tokens source = [⟨.leftParen, ⟨0, 0⟩⟩, ⟨.ident Expr.defvarWord, ⟨1, 1⟩⟩,
      ⟨.ident "a>".toList, ⟨8, 8⟩⟩, ⟨.leftBracket, ⟨11, 11⟩⟩, ⟨.ident "x>".toList, ⟨12, 12⟩⟩,
      ⟨.integer "07".toList, ⟨15, 15⟩⟩, ⟨.rightBracket, ⟨17, 17⟩⟩, ⟨.string ['d'], ⟨19, 19⟩⟩,
      ⟨.rightParen, ⟨22, 22⟩⟩, ⟨.endOfInput, ⟨23, 23⟩⟩] := by
    decide +kernel
  have htokens' : tokens source' = [⟨.leftParen, ⟨0, 0⟩⟩, ⟨.ident Expr.defvarWord, ⟨1, 1⟩⟩,
      ⟨.ident "a>".toList, ⟨8, 8⟩⟩, ⟨.leftBracket, ⟨11, 11⟩⟩, ⟨.ident "x>".toList, ⟨12, 12⟩⟩,
      ⟨.integer "7".toList, ⟨15, 15⟩⟩, ⟨.rightBracket, ⟨17, 17⟩⟩, ⟨.string ['d'], ⟨19, 19⟩⟩,
      ⟨.rightParen, ⟨22, 22⟩⟩, ⟨.endOfInput, ⟨23, 23⟩⟩] := by
    decide +kernel
  have hparse : Program.parse source = .ok (program "07".toList) := by
    rw [Program.parse, htokens]
    rfl
  have hparse' : Program.parse source' = .ok (program "7".toList) := by
    rw [Program.parse, htokens']
    rfl
  have htree : Program.tree (program "07".toList) = Program.tree (program "7".toList) := rfl
  exact ⟨_, _, hparse, hparse', htree, trees_tell_programs_apart hparse hparse' htree⟩

end Sexpr
