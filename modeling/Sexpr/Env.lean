import Sexpr.Value

/-!
Variables. A name is bound at most once, with its value and, maybe, its documentation; nothing
changes or removes a binding. Main statements: a new binding is found, and all others are found as
before.
-/

namespace Sexpr

structure Binding where
  name : Text
  value : Value
  doc : Option Text

/-- Bindings, the latest first. -/
structure Env where
  bindings : List Binding
  nodup_names : (bindings.map Binding.name).Nodup

namespace Env

def empty : Env :=
  ⟨[], List.nodup_nil⟩

def find? (env : Env) (name : Text) : Option Binding :=
  env.bindings.find? (·.name == name)

def get? (env : Env) (name : Text) : Option Value :=
  (env.find? name).map Binding.value

def doc? (env : Env) (name : Text) : Option Text :=
  (env.find? name).bind Binding.doc

def size (env : Env) : Nat :=
  env.bindings.length

def isEmpty (env : Env) : Bool :=
  env.bindings.isEmpty

def names (env : Env) : List Text :=
  env.bindings.map Binding.name

theorem find?_eq_none_iff {env : Env} {name : Text} : env.find? name = none ↔ name ∉ env.names := by
  simp only [find?, List.find?_eq_none, names, List.mem_map, beq_iff_eq]
  exact ⟨fun h ⟨b, hb, hn⟩ => h b hb hn, fun h b hb hn => h ⟨b, hb, hn⟩⟩

def define? (env : Env) (b : Binding) : Option Env :=
  if h : b.name ∈ env.names then none
  else some ⟨b :: env.bindings, List.nodup_cons.2 ⟨h, env.nodup_names⟩⟩

/-- A binding is made in front of all others, and only of a name that has none. -/
theorem define?_eq_some_iff {env env' : Env} {b : Binding} :
    env.define? b = some env' ↔ b.name ∉ env.names ∧ env'.bindings = b :: env.bindings := by
  unfold define?
  split
  · simp_all
  · rename_i h
    constructor
    · intro he
      cases he
      exact ⟨h, rfl⟩
    · rintro ⟨_, he⟩
      cases env'
      cases he
      rfl

theorem define?_eq_none_iff {env : Env} {b : Binding} :
    env.define? b = none ↔ b.name ∈ env.names := by
  rw [define?]
  split <;> simp_all

theorem exists_define {env : Env} {b : Binding} (h : b.name ∉ env.names) :
    ∃ env', env.define? b = some env' :=
  Option.ne_none_iff_exists'.mp fun hnone => h (define?_eq_none_iff.mp hnone)

/-- The new binding is found by its name, and all others are found as before. -/
theorem find?_define {env env' : Env} {b : Binding} (h : env.define? b = some env')
    (name : Text) : env'.find? name = if b.name = name then some b else env.find? name := by
  obtain ⟨_, hb⟩ := define?_eq_some_iff.1 h
  simp only [find?, hb, List.find?_cons]
  split <;> simp_all

theorem size_define {env env' : Env} {b : Binding} (h : env.define? b = some env') :
    env'.size = env.size + 1 := by
  obtain ⟨_, hb⟩ := define?_eq_some_iff.1 h
  simp [size, hb]

def listing (env : Env) : List Binding :=
  env.bindings.mergeSort fun a b => Text.le a.name b.name

end Env

end Sexpr
