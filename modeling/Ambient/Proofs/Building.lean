import Ambient.Proofs.Tables

/-!
Programs as they are built. What a program stores under a name is decided by the operations on that
name alone, and the symbols below a namespace are one run of the program, which has all of them and
nothing else: a name that goes on after the namespace with another character than a dot stands
before the run or after it.
-/
namespace Ambient

inductive Operation where
  | define (s : Symbol)
  | insert (s : Symbol)
  | addAlias (name : Name) (target : Ty)
  | addExport (name : Name)

/-- What is stored under a name after an operation, by what was stored there before. -/
def Operation.stored (name : Name) (before : Option Symbol) : Operation → Option Symbol
  | .define s => if s.name = name then some s else before
  | .insert s => if s.name = name then before.or (some s) else before
  | .addAlias .. | .addExport _ => before

namespace Graph

/-- A program as an operation leaves it, whether it fails or not. -/
def apply (g : Graph) : Operation → Graph
  | .define s => g.define s
  | .insert s =>
    match (insert s).run g with
    | .ok _ g' | .error _ g' => g'
  | .addAlias name target => g.addAlias name target
  | .addExport name => g.addExport name

def run (g : Graph) (ops : List Operation) : Graph := ops.foldl apply g

variable (g : Graph)

/-- A name that is known is refused, and the program is left as it was. -/
theorem insert_run (s : Symbol) :
    (insert s).run g =
      if (g.resolve? s.name).isSome then .error (.duplicateSymbol s.name) g
      else .ok () (g.define s) :=
  rfl

theorem apply_insert (s : Symbol) :
    g.apply (.insert s) = if (g.resolve? s.name).isSome then g else g.define s := by
  rw [apply, insert_run]
  cases (g.resolve? s.name).isSome with
  | false => rfl
  | true => rfl

theorem resolve?_apply (op : Operation) (name : Name) :
    (g.apply op).resolve? name = op.stored name (g.resolve? name) := by
  cases op with
  | define s => exact g.resolve?_define_eq s name
  | insert s =>
    rw [apply_insert, Operation.stored]
    by_cases same : s.name = name
    · subst same
      cases found : g.resolve? s.name with
      | none => simp [resolve?_define_eq]
      | some old => simp [found]
    · rw [if_neg same]
      split
      · rfl
      · rw [resolve?_define_eq, if_neg same]
  | addAlias | addExport => rfl

theorem resolve?_run (ops : List Operation) (name : Name) :
    (g.run ops).resolve? name = ops.foldl (Operation.stored name) (g.resolve? name) := by
  induction ops generalizing g with
  | nil => rfl
  | cons op ops ih =>
    rw [run, List.foldl_cons, List.foldl_cons, ← resolve?_apply]
    exact ih (g.apply op)

theorem mem_symbolList_run (ops : List Operation) (s : Symbol) :
    s ∈ (g.run ops).symbolList ↔
      ops.foldl (Operation.stored s.name) (g.resolve? s.name) = some s := by
  rw [← resolve?_run, resolve?_eq_some_iff, and_iff_left rfl]

/-- After any operations the run of a namespace has exactly the symbols that the operations left and
that lie below the namespace, each once and in ascending order. -/
theorem childrenOf_run (ops : List Operation) (ns : Name) :
    ((g.run ops).childrenOf ns).Pairwise (·.name < ·.name) ∧
      ∀ s, (s ∈ (g.run ops).childrenOf ns ↔
          s ∈ (g.run ops).symbolList ∧ (s.name.under? ns).isSome = true) ∧
        (s ∈ (g.run ops).symbolList ↔
          ops.foldl (Operation.stored s.name) (g.resolve? s.name) = some s) := by
  rw [childrenOf_eq_filter]
  exact ⟨(g.run ops).symbolList_ascending.filter _,
    fun s => ⟨List.mem_filter, g.mem_symbolList_run ops s⟩⟩

-- A dash stands before a dot and a letter after it.
example :
    ((({} : Graph).run [.define ⟨"ns.b", none⟩, .insert ⟨"nsx.c", none⟩, .define ⟨"ns", none⟩,
      .insert ⟨"ns.a.deep", none⟩, .insert ⟨"ns-x.c", none⟩]).childrenOf "ns").map (·.name) =
      ["ns.a.deep", "ns.b"] := by
  decide

end Graph

end Ambient
