import Sexpr.Expr

/-! The expressions nested in an expression, and induction from the parts of an expression to the
whole. The induction has one case for all kinds of expressions, so that facts that only speak of the
parts need no case analysis. -/
namespace Sexpr.Expr

def children : Expr → List Expr
  | call _ _ args => args
  | list _ elements => elements
  | vector _ elements => elements
  | defvar _ _ value _ => [value]
  | _ => []

mutual

def nodes : Expr → List Expr
  | e@(call _ _ args) => e :: nodesAll args
  | e@(list _ elements) => e :: nodesAll elements
  | e@(vector _ elements) => e :: nodesAll elements
  | e@(defvar _ _ value _) => e :: nodes value
  | e => [e]

def nodesAll : List Expr → List Expr
  | [] => []
  | e :: es => nodes e ++ nodesAll es

end

/-- Below an expression stand the nodes of its children. -/
theorem nodes_eq (e : Expr) : e.nodes = e :: nodesAll e.children := by
  cases e with
  | defvar keyword name value doc => simp only [nodes, children, nodesAll, List.append_nil]
  | _ => rfl

theorem mem_nodesAll_iff {f : Expr} {es : List Expr} :
    f ∈ nodesAll es ↔ ∃ e ∈ es, f ∈ e.nodes := by
  induction es with
  | nil => simp [nodesAll]
  | cons e es ih => simp only [nodesAll, List.mem_append, ih, List.mem_cons, exists_eq_or_imp]

theorem self_mem_nodes (e : Expr) : e ∈ e.nodes := by
  rw [nodes_eq]
  exact List.mem_cons_self

theorem mem_nodes_of_mem_children {c e f : Expr} (hc : c ∈ e.children) (hf : f ∈ c.nodes) :
    f ∈ e.nodes := by
  rw [nodes_eq]
  exact List.mem_cons_of_mem e (mem_nodesAll_iff.mpr ⟨c, hc, hf⟩)

mutual

/-- Induction on an expression by way of its children, whatever form it has. -/
theorem of_children {P : Expr → Prop} (h : ∀ e, (∀ c ∈ e.children, P c) → P e) : ∀ e, P e
  | call _ _ args => h _ (of_children_all h args)
  | list _ elements => h _ (of_children_all h elements)
  | vector _ elements => h _ (of_children_all h elements)
  | defvar _ _ value _ => h _ fun _ hc => List.mem_singleton.mp hc ▸ of_children h value
  | ident _ => h _ fun _ hc => absurd hc List.not_mem_nil
  | integer _ _ => h _ fun _ hc => absurd hc List.not_mem_nil
  | float _ _ => h _ fun _ hc => absurd hc List.not_mem_nil
  | string _ => h _ fun _ hc => absurd hc List.not_mem_nil
  | character _ => h _ fun _ hc => absurd hc List.not_mem_nil

theorem of_children_all {P : Expr → Prop} (h : ∀ e, (∀ c ∈ e.children, P c) → P e) :
    ∀ es : List Expr, ∀ e ∈ es, P e
  | [], _, he => absurd he List.not_mem_nil
  | d :: ds, e, he =>
    (List.mem_cons.mp he).elim (fun heq => heq ▸ of_children h d) (of_children_all h ds e)

end

end Sexpr.Expr
