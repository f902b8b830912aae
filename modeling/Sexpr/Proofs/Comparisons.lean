import Mathlib.Data.List.Chain
import Mathlib.Data.List.Pairwise
import Sexpr.Builtin.Comparison

/-! Comparisons of whole argument lists. Only neighbours are compared. Relations of numbers are
transitive, so that neighbours speak for all pairs; a float that is no number has a neighbour, and is in
no relation to it. The kinds of all arguments are looked at before any two are compared. Main statement:
a comparison decides the order of the whole list. -/
namespace Sexpr

namespace Comparison

def Holds : Comparison → Int → Int → Prop
  | equal, m, n => m = n
  | less, m, n => m < n
  | greater, m, n => n < m

theorem ints_eq_true_iff {rel : Comparison} {a b : Int64} :
    rel.ints a b = true ↔ rel.Holds a.toInt b.toInt := by
  cases rel with
  | equal => rw [ints, Holds, beq_iff_eq, Int64.toInt_inj]
  | less => rw [ints, Holds, decide_eq_true_iff, Int64.lt_iff_toInt_lt]
  | greater => rw [ints, Holds, decide_eq_true_iff, Int64.lt_iff_toInt_lt]

theorem Holds.trans {rel : Comparison} {l m n : Int} (hlm : rel.Holds l m) (hmn : rel.Holds m n) :
    rel.Holds l n := by
  cases rel with
  | equal => exact Eq.trans hlm hmn
  | less => exact Int.lt_trans hlm hmn
  | greater => exact Int.lt_trans hmn hlm

/-- Two numbers are in one relation. -/
theorem Holds.unique {rel rel' : Comparison} {m n : Int} (h : rel.Holds m n) (h' : rel'.Holds m n) :
    rel = rel' := by
  cases rel <;> cases rel' <;> simp only [Holds, reduceCtorEq] at h h' ⊢ <;> omega

theorem chain_eq_true_iff_isChain {α : Type} {rel : α → α → Bool} {as : List α} :
    chain rel as = true ↔ as.IsChain fun a b => rel a b = true := by
  induction as with
  | nil => simp [chain]
  | cons a as ih =>
    cases as with
    | nil => simp [chain]
    | cons b as => rw [chain, Bool.and_eq_true, ih, List.isChain_cons_cons]

/-- A relation of numbers that holds of all neighbours holds of all pairs. -/
theorem chain_ints_eq_true_iff {rel : Comparison} {ns : List Int64} :
    chain rel.ints ns = true ↔ ns.Pairwise fun a b => rel.Holds a.toInt b.toInt := by
  let R (a b : Int64) : Prop := rel.Holds a.toInt b.toInt
  have : Trans R R R := ⟨Holds.trans⟩
  calc chain rel.ints ns = true
      ↔ ns.IsChain fun a b => rel.ints a b = true := chain_eq_true_iff_isChain
    _ ↔ ns.IsChain R := List.IsChain.iff fun a b => ints_eq_true_iff
    _ ↔ ns.Pairwise R := List.isChain_iff_pairwise

/-- In one order at most: the first two numbers are in one relation. -/
theorem eq_of_pairwise_holds {rel rel' : Comparison} {ns : List Int64} (hns : 2 ≤ ns.length)
    (h : ns.Pairwise fun a b => rel.Holds a.toInt b.toInt)
    (h' : ns.Pairwise fun a b => rel'.Holds a.toInt b.toInt) : rel = rel' := by
  match ns, hns with
  | a :: b :: ns, _ =>
    have hhead := (List.pairwise_cons.mp h).1 b List.mem_cons_self
    have hhead' := (List.pairwise_cons.mp h').1 b List.mem_cons_self
    exact hhead.unique hhead'

/-- The reversed list falls where the list rises. -/
theorem chain_less_reverse (ns : List Int64) : chain less.ints ns.reverse = chain greater.ints ns := by
  have hflip (m n : Int) : less.Holds n m ↔ greater.Holds m n := Iff.rfl
  rw [Bool.eq_iff_iff, chain_ints_eq_true_iff, chain_ints_eq_true_iff, List.pairwise_reverse]
  simp only [hflip]

theorem pairwise_equal_iff {ns : List Int64} :
    (ns.Pairwise fun a b => equal.Holds a.toInt b.toInt) ↔ ∀ a ∈ ns, ∀ b ∈ ns, a = b := by
  have hequal (a b : Int64) : equal.Holds a.toInt b.toInt ↔ a = b := Int64.toInt_inj
  simp only [hequal]
  exact ⟨List.Pairwise.forall_of_forall fun a _ => rfl, List.pairwise_of_forall_mem_list⟩

/-- In a list of two or more, an element without relations has a neighbour to fail with. -/
theorem chain_eq_false_of_mem {α : Type} {rel : α → α → Bool} {a : α} {as : List α}
    (ha : ∀ b, rel a b = false ∧ rel b a = false) (hmem : a ∈ as) (hlength : 2 ≤ as.length) :
    chain rel as = false := by
  induction as with
  | nil => cases hmem
  | cons c as ih =>
    cases as with
    | nil => exact absurd hlength (by simp)
    | cons d as =>
      rw [chain, Bool.and_eq_false_iff]
      rcases List.mem_cons.mp hmem with rfl | hmem
      · exact .inl (ha d).1
      · cases as with
        | nil =>
          cases List.mem_singleton.mp hmem
          exact .inl (ha c).2
        | cons e as => exact .inr (ih hmem (by simp))

/-- What is no number has no order with anything. -/
theorem compare_of_isNaN {x : Float.Model.UnpackedFloat} (h : x.isNaN = true)
    (y : Float.Model.UnpackedFloat) : x.compare y = none ∧ y.compare x = none := by
  cases x with
  | notANumber => cases y <;> exact ⟨rfl, rfl⟩
  | _ => cases h

theorem floats_of_compare_eq_none (rel : Comparison) {x y : Float}
    (hxy : x.toModel.unpack.compare y.toModel.unpack = none)
    (hyx : y.toModel.unpack.compare x.toModel.unpack = none) : rel.floats x y = false := by
  have hless {x y : Float} (h : x.toModel.unpack.compare y.toModel.unpack = none) :
      decide (x < y) = false := by
    apply decide_eq_false
    intro hlt
    have hmodel : decide (x.toModel < y.toModel) = true := hlt
    have hcompare : (x.toModel.unpack.compare y.toModel.unpack == some .lt) = true :=
      of_decide_eq_true hmodel
    rw [h] at hcompare
    cases hcompare
  cases rel with
  | equal =>
    change (x.toModel.unpack.compare y.toModel.unpack == some .eq) = false
    rw [hxy]
    rfl
  | less => exact hless hxy
  | greater => exact hless hyx

/-- What is no number is in no relation, on either side. -/
theorem floats_of_isNaN (rel : Comparison) {x : Float} (h : x.isNaN = true) (y : Float) :
    rel.floats x y = false ∧ rel.floats y x = false := by
  obtain ⟨hxy, hyx⟩ := compare_of_isNaN h y.toModel.unpack
  exact ⟨rel.floats_of_compare_eq_none hxy hyx, rel.floats_of_compare_eq_none hyx hxy⟩

theorem apply_of_length_lt (rel : Comparison) {args : List Value} (h : args.length < 2) :
    rel.apply args = .error (.arity rel.builtin 2 args.length) := by
  match args, h with
  | [], _ => rfl
  | [_], _ => rfl

/-- Values of one kind are compared by what they hold. Behind the first of them, all arguments are read
as values of that kind before any two are compared. -/
structure Reads (rel : Comparison) (kind : Value.Kind) {α : Type} (make : α → Value)
    (get : Value → Option α) (holds : α → α → Bool) : Prop where
  get_make : ∀ a, get (make a) = some a
  get_eq_none_iff : ∀ {v}, get v = none ↔ v.kind ≠ kind
  apply_cons : ∀ a {args}, args ≠ [] → rel.apply (make a :: args) =
    (fun as => .bool (chain holds as)) <$> rel.builtin.expectAll kind get 0 (make a :: args)

theorem reads_ints (rel : Comparison) : rel.Reads .int .int Value.int? rel.ints where
  get_make _ := rfl
  get_eq_none_iff := Value.int?_eq_none_iff
  apply_cons a args hargs := by
    obtain ⟨v, args, rfl⟩ := List.exists_cons_of_ne_nil hargs
    simp only [apply, bind_pure_comp, Builtin.expectInts]

theorem reads_floats (rel : Comparison) : rel.Reads .float .float Value.float? rel.floats where
  get_make _ := rfl
  get_eq_none_iff := Value.float?_eq_none_iff
  apply_cons x args hargs := by
    obtain ⟨v, args, rfl⟩ := List.exists_cons_of_ne_nil hargs
    simp only [apply, bind_pure_comp, Builtin.expectFloats]

namespace Reads

variable {rel : Comparison} {kind : Value.Kind} {α : Type} {make : α → Value}
  {get : Value → Option α} {holds : α → α → Bool}

/-- Two values or more of one kind are compared neighbour by neighbour. -/
theorem apply_map (h : rel.Reads kind make get holds) {as : List α} (has : 2 ≤ as.length) :
    rel.apply (as.map make) = .ok (.bool (chain holds as)) := by
  match as, has with
  | a :: b :: as, _ =>
    rw [List.map_cons, h.apply_cons a (by simp), ← List.map_cons,
      Builtin.expectAll_map make h.get_make]
    rfl

/-- The values in front of an argument of another kind do not matter, nor does anything behind it. -/
theorem apply_of_other_kind (h : rel.Reads kind make get holds) {a : α} {args : List Value} {i : Nat}
    {v : Value} (hargs : args ≠ []) (hi : (make a :: args)[i]? = some v) (hv : v.kind ≠ kind)
    (hbefore : ∀ j w, j < i → (make a :: args)[j]? = some w → w.kind = kind) :
    rel.apply (make a :: args) = .error (.typeMismatch rel.builtin i kind v.kind) := by
  have hread : rel.builtin.expectAll kind get 0 (make a :: args) =
      .error (.typeMismatch rel.builtin (0 + i) kind v.kind) := by
    apply Builtin.expectAll_eq_error hi (h.get_eq_none_iff.mpr hv)
    intro j w hj hw hnone
    exact h.get_eq_none_iff.mp hnone (hbefore j w hj hw)
  rw [h.apply_cons a hargs, hread, Nat.zero_add]
  rfl

end Reads

/-- The first argument of another kind is reported, before any two are compared. -/
theorem apply_of_other_kind {rel : Comparison} {first : Value} {args : List Value} {i : Nat}
    {v : Value} (hfirst : first.kind = .int ∨ first.kind = .float)
    (hi : (first :: args)[i]? = some v) (hv : v.kind ≠ first.kind)
    (hbefore : ∀ j w, j < i → (first :: args)[j]? = some w → w.kind = first.kind) :
    rel.apply (first :: args) = .error (.typeMismatch rel.builtin i first.kind v.kind) := by
  have hargs : args ≠ [] := by
    rintro rfl
    cases i with
    | zero =>
      cases hi
      exact hv rfl
    | succ i => cases hi
  cases first with
  | int a => exact rel.reads_ints.apply_of_other_kind hargs hi hv hbefore
  | float x => exact rel.reads_floats.apply_of_other_kind hargs hi hv hbefore
  | _ => simp [Value.kind] at hfirst

end Comparison

/-- A comparison decides the order of the whole list. Two numbers or more are in one order at most, and
floats in none if one of them is no number. An argument of another kind than the first is reported, the
first such one, whatever the values in front of it say. A list of one is in no order and is refused. -/
theorem comparison_decides_whole_list :
    (∀ ns : List Int64, 2 ≤ ns.length → ∃ answer : Comparison → Bool,
      (∀ rel : Comparison, rel.apply (ns.map .int) = .ok (.bool (answer rel))) ∧
      (answer .less = true ↔ ns.Pairwise fun a b => a.toInt < b.toInt) ∧
      Comparison.less.apply (ns.reverse.map .int) = .ok (.bool (answer .greater)) ∧
      (answer .equal = true ↔ ∀ a ∈ ns, ∀ b ∈ ns, a = b) ∧
      ∀ rel rel', answer rel = true → answer rel' = true → rel = rel') ∧
    (∀ (rel : Comparison) (xs : List Float), 2 ≤ xs.length → (∃ x ∈ xs, x.isNaN = true) →
      rel.apply (xs.map .float) = .ok (.bool false)) ∧
    (∀ (rel : Comparison) (first : Value) (args : List Value),
      first.kind = .int ∨ first.kind = .float →
      ∀ i v, (first :: args)[i]? = some v → v.kind ≠ first.kind →
        (∀ j w, j < i → (first :: args)[j]? = some w → w.kind = first.kind) →
          rel.apply (first :: args) = .error (.typeMismatch rel.builtin i first.kind v.kind)) ∧
    ∀ (rel : Comparison) (args : List Value), args.length < 2 →
      rel.apply args = .error (.arity rel.builtin 2 args.length) := by
  refine ⟨?_, ?_, ?_, fun rel args h => rel.apply_of_length_lt h⟩
  · intro ns hns
    refine ⟨fun rel => Comparison.chain rel.ints ns, fun rel => rel.reads_ints.apply_map hns,
      Comparison.chain_ints_eq_true_iff, ?_, ?_, ?_⟩
    · rw [(Comparison.reads_ints .less).apply_map (by simpa using hns), Comparison.chain_less_reverse]
    · rw [Comparison.chain_ints_eq_true_iff, Comparison.pairwise_equal_iff]
    · intro rel rel' h h'
      rw [Comparison.chain_ints_eq_true_iff] at h h'
      exact Comparison.eq_of_pairwise_holds hns h h'
  · rintro rel xs hxs ⟨x, hx, hnan⟩
    rw [rel.reads_floats.apply_map hxs,
      Comparison.chain_eq_false_of_mem (rel.floats_of_isNaN hnan) hx hxs]
  · intro rel first args hfirst i v hi hv hbefore
    exact Comparison.apply_of_other_kind hfirst hi hv hbefore

/-- Three numbers one way round and the other; a float that differs from itself; and a string that is
reported although the two numbers in front of it are out of order. -/
theorem mixed_list_is_refused_although_out_of_order :
    Comparison.less.apply [.int (-1), .int 2, .int 3] = .ok (.bool true) ∧
      Comparison.less.apply [.int 3, .int 2, .int (-1)] = .ok (.bool false) ∧
      Comparison.equal.apply [.float (0.0 / 0.0), .float (0.0 / 0.0)] = .ok (.bool false) ∧
      Comparison.less.apply [.int 2, .int 1, .string ['x']] =
        .error (.typeMismatch (.comparison .less) 2 .int .string) ∧
      Comparison.equal.apply [.float (0.0 / 0.0)] = .error (.arity (.comparison .equal) 2 1) := by
  obtain ⟨hints, hfloats, hkinds, hshort⟩ := comparison_decides_whole_list
  obtain ⟨answer, hanswer, hless, hreverse, -, hunique⟩ := hints [-1, 2, 3] (by decide)
  have htrue : answer .less = true := hless.mpr (by decide)
  have hfalse : answer .greater = false := by
    apply Bool.eq_false_iff.mpr
    intro hgreater
    cases hunique _ _ htrue hgreater
  refine ⟨?_, ?_, ?_, ?_, hshort .equal _ (by decide)⟩
  · rw [← htrue]
    exact hanswer .less
  · rw [← hfalse]
    exact hreverse
  · exact hfloats .equal [0.0 / 0.0, 0.0 / 0.0] (by decide) ⟨_, List.mem_cons_self, by decide⟩
  · apply hkinds .less (.int 2) [.int 1, .string ['x']] (.inl rfl) 2 (.string ['x']) rfl (by decide)
    intro j w hj hw
    match j, hj with
    | 0, _ => cases hw; rfl
    | 1, _ => cases hw; rfl

end Sexpr
