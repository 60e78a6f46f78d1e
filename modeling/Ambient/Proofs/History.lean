import Ambient.Proofs.Building
import Mathlib.Data.List.Dedup

namespace Ambient

inductive Part where
  | symbols
  | aliases
  | exports
  deriving DecidableEq

namespace Operation

def part : Operation → Part
  | .define _ | .insert _ => .symbols
  | .addAlias .. => .aliases
  | .addExport _ => .exports

/-- The name that is defined after an operation, whether by it or before it. -/
def defined? : Operation → Option Name
  | .define s | .insert s => some s.name
  | .addAlias .. | .addExport _ => none

end Operation

namespace Symbol

def latest? (name : Name) (symbols : List Symbol) : Option Symbol :=
  (symbols.filter (·.name = name)).getLast?

theorem latest?_append (name : Name) (earlier later : List Symbol) :
    latest? name (earlier ++ later) = (latest? name later).or (latest? name earlier) := by
  unfold latest?
  rw [List.filter_append, List.getLast?_append]

theorem latest?_nil (name : Name) : latest? name [] = none := rfl

theorem latest?_singleton (name : Name) (s : Symbol) :
    latest? name [s] = if s.name = name then some s else none := by
  unfold latest?
  by_cases same : s.name = name
  · rw [if_pos same, List.filter_cons_of_pos (by simpa using same)]
    rfl
  · rw [if_neg same, List.filter_cons_of_neg (by simpa using same)]
    rfl

end Symbol

namespace Graph

variable (g : Graph)

/-- One table of a program alone; the others are empty. -/
def only : Part → Graph
  | .symbols => { symbols := g.symbols }
  | .aliases => { aliases := g.aliases }
  | .exports => { exports := g.exports }

/-- The symbol that an operation stores; an insertion that fails stores none. -/
def stores? : Operation → Option Symbol
  | .define s => some s
  | .insert s =>
    match (insert s).run g with
    | .ok _ _ => some s
    | .error _ _ => none
  | .addAlias .. | .addExport _ => none

def writes (g : Graph) : List Operation → List Symbol
  | [] => []
  | op :: ops => (g.stores? op).toList ++ (g.apply op).writes ops

theorem run_append (ops later : List Operation) :
    g.run (ops ++ later) = (g.run ops).run later :=
  List.foldl_append

theorem stores?_insert (s : Symbol) :
    g.stores? (.insert s) = if (g.resolve? s.name).isSome then none else some s := by
  rw [stores?, insert_run]
  cases (g.resolve? s.name).isSome with
  | false => rfl
  | true => rfl

theorem resolve?_apply_stores (op : Operation) (name : Name) :
    (g.apply op).resolve? name =
      (Symbol.latest? name (g.stores? op).toList).or (g.resolve? name) := by
  rw [resolve?_apply]
  cases op with
  | define s =>
    rw [Operation.stored, stores?, Option.toList_some, Symbol.latest?_singleton]
    split <;> rfl
  | insert s =>
    rw [Operation.stored, stores?_insert]
    by_cases same : s.name = name
    · subst same
      cases g.resolve? s.name with
      | none => simp [Symbol.latest?_singleton]
      | some old => simp [Symbol.latest?_nil]
    · rw [if_neg same]
      split
      · rfl
      · rw [Option.toList_some, Symbol.latest?_singleton, if_neg same, Option.none_or]
  | addAlias | addExport => rfl

theorem resolve?_run_writes (ops : List Operation) (name : Name) :
    (g.run ops).resolve? name = (Symbol.latest? name (g.writes ops)).or (g.resolve? name) := by
  induction ops generalizing g with
  | nil => rfl
  | cons op ops ih =>
    calc (g.run (op :: ops)).resolve? name
        = (Symbol.latest? name ((g.apply op).writes ops)).or ((g.apply op).resolve? name) :=
          ih (g.apply op)
      _ = (Symbol.latest? name (g.writes (op :: ops))).or (g.resolve? name) := by
        rw [resolve?_apply_stores, writes, Symbol.latest?_append, Option.or_assoc]

theorem mem_names_iff_resolve? (name : Name) :
    name ∈ g.symbols.names ↔ (g.resolve? name).isSome = true := by
  exact g.symbols.contains_iff name |>.symm

theorem mem_names_apply (op : Operation) (name : Name) :
    name ∈ (g.apply op).symbols.names ↔ op.defined? = some name ∨ name ∈ g.symbols.names := by
  rw [mem_names_iff_resolve?, mem_names_iff_resolve?, resolve?_apply]
  cases op with
  | define s | insert s =>
    rw [Operation.stored, Operation.defined?, Option.some.injEq]
    by_cases same : s.name = name
    · simp [same]
    · simp [same]
  | addAlias | addExport => simp [Operation.stored, Operation.defined?]

theorem mem_names_run (ops : List Operation) (name : Name) :
    name ∈ (g.run ops).symbols.names ↔
      name ∈ g.symbols.names ++ ops.filterMap Operation.defined? := by
  induction ops generalizing g with
  | nil => simp [run]
  | cons op ops ih =>
    have step := ih (g.apply op)
    rw [List.mem_append, mem_names_apply, List.mem_filterMap] at step
    refine step.trans ?_
    rw [List.mem_append, List.mem_filterMap, List.exists_mem_cons_iff]
    tauto

theorem size_run (ops : List Operation) :
    (g.run ops).symbols.size =
      (g.symbols.names ++ ops.filterMap Operation.defined?).dedup.length := by
  have distinct : (g.run ops).symbols.names.Nodup :=
    (g.run ops).symbols.names_ascending.imp String.ne_of_lt
  have same : (g.run ops).symbols.names.Perm
      (g.symbols.names ++ ops.filterMap Operation.defined?).dedup := by
    refine (List.perm_ext_iff_of_nodup distinct (List.nodup_dedup _)).mpr fun name => ?_
    rw [List.mem_dedup, mem_names_run]
  rw [← same.length_eq]
  exact (List.length_map _).symm

/-- An operation changes its own table by what stands in this table. -/
theorem only_apply (op : Operation) (part : Part) :
    (g.apply op).only part = if op.part = part then (g.only part).apply op else g.only part := by
  cases op with
  | define | addAlias | addExport => cases part <;> rfl
  | insert s =>
    have alone : (g.only .symbols).resolve? s.name = g.resolve? s.name := rfl
    cases part with
    | symbols =>
      have own : (Operation.insert s).part = .symbols := rfl
      rw [apply_insert, apply_insert, alone, if_pos own]
      split <;> rfl
    | aliases | exports =>
      rw [apply_insert]
      split <;> rfl

theorem only_run (ops : List Operation) (part : Part) :
    (g.run ops).only part = (g.only part).run (ops.filter (·.part = part)) := by
  induction ops generalizing g with
  | nil => rfl
  | cons op ops ih =>
    refine (ih (g.apply op)).trans ?_
    rw [only_apply]
    by_cases own : op.part = part
    · rw [if_pos own, List.filter_cons_of_pos (by simpa using own)]
      rfl
    · rw [if_neg own, List.filter_cons_of_neg (by simpa using own)]

/-- What any operations leave of a program: every symbol under its own name, of each name the last
one that was stored, and in each table what was done to it. A name that is known can not be inserted
again, and the attempt leaves the program as it was. -/
theorem run_histories (ops : List Operation) :
    (∀ e ∈ (g.run ops).symbols.entries, e.2.name = e.1) ∧
    (∀ name s, (g.run ops).resolve? name = some s ↔
      s ∈ (g.run ops).symbolList ∧ s.name = name) ∧
    (∀ s, s.name ∈ (g.run ops).symbols.names →
      (insert s).run (g.run ops) = .error (.duplicateSymbol s.name) (g.run ops) ∧
        g.run (ops ++ [.insert s]) = g.run ops) ∧
    (∀ s, s.name ∉ (g.run ops).symbols.names →
      (insert s).run (g.run ops) = .ok () (g.run (ops ++ [.insert s]))) ∧
    (∀ name, (g.run ops).resolve? name =
      (Symbol.latest? name (g.writes ops)).or (g.resolve? name)) ∧
    (g.run ops).symbolList.Pairwise (·.name < ·.name) ∧
    (g.run ops).exports.names.Pairwise (· < ·) ∧
    (g.run ops).symbols.size =
      (g.symbols.names ++ ops.filterMap Operation.defined?).dedup.length ∧
    ∀ part, (g.run ops).only part = (g.only part).run (ops.filter (·.part = part)) := by
  have inserted (s : Symbol) : g.run (ops ++ [.insert s]) = (g.run ops).apply (.insert s) :=
    g.run_append ops [.insert s]
  refine ⟨(g.run ops).symbols.named, (g.run ops).resolve?_eq_some_iff, fun s known => ?_,
    fun s new => ?_, g.resolve?_run_writes ops, (g.run ops).symbolList_ascending,
    (g.run ops).exports.names_ascending, g.size_run ops, g.only_run ops⟩
  · rw [mem_names_iff_resolve?] at known
    rw [inserted, insert_run, apply_insert, if_pos known, if_pos known]
    exact ⟨rfl, rfl⟩
  · rw [mem_names_iff_resolve?] at new
    rw [inserted, insert_run, apply_insert, if_neg new, if_neg new]

/-- A name that is defined twice and inserted in vain, between operations on the other tables. -/
def shelving : List Operation :=
  [.define ⟨"lib.b", none⟩, .addAlias "lib.b" (.primitive .string), .insert ⟨"lib.a", none⟩,
    .define ⟨"lib.b", some (.primitive .number)⟩, .addExport "lib.a",
    .insert ⟨"lib.b", some (.primitive .void)⟩]

theorem shelving_run_histories :
    "lib.b" ∈ (({} : Graph).run shelving).symbols.names ∧
      (insert ⟨"lib.b", none⟩).run (({} : Graph).run shelving) =
        .error (.duplicateSymbol "lib.b") (({} : Graph).run shelving) ∧
      ({} : Graph).run (shelving ++ [.insert ⟨"lib.b", none⟩]) = ({} : Graph).run shelving ∧
      "lib.c" ∉ (({} : Graph).run shelving).symbols.names ∧
      (insert ⟨"lib.c", none⟩).run (({} : Graph).run shelving) =
        .ok () (({} : Graph).run (shelving ++ [.insert ⟨"lib.c", none⟩])) ∧
      (({} : Graph).run shelving).resolve? "lib.b" =
        some ⟨"lib.b", some (.primitive .number)⟩ ∧
      (({} : Graph).run shelving).symbols.size = 2 := by
  have known : "lib.b" ∈ (({} : Graph).run shelving).symbols.names := by decide
  have new : "lib.c" ∉ (({} : Graph).run shelving).symbols.names := by decide
  obtain ⟨-, -, refused, accepted, found, -, -, size, -⟩ := run_histories {} shelving
  obtain ⟨error, unchanged⟩ := refused ⟨"lib.b", none⟩ known
  refine ⟨known, error, unchanged, new, accepted ⟨"lib.c", none⟩ new, ?_, size.trans (by decide)⟩
  rw [found]
  rfl

end Graph

end Ambient
