import Ambient.Listing
import Ambient.Proofs.Problems
import Ambient.Proofs.Sections

namespace Ambient

namespace Dump

theorem symbolProblems_eq_nil_iff (earlier : List Name) (symbols : List SymbolSpec) :
    symbolProblems earlier symbols = [] ↔
      (∀ s ∈ symbols, TypeSpec.problems? s.name s.type? = []) ∧
        (symbols.map (·.name)).Nodup ∧ ∀ s ∈ symbols, s.name ∉ earlier := by
  induction symbols generalizing earlier with
  | nil => simp [symbolProblems]
  | cons s symbols ih =>
    have here : repeatProblem .duplicateSymbol earlier s.name = [] ↔ s.name ∉ earlier := by
      simp [repeatProblem]
    -- a later symbol may repeat neither this name nor an earlier one
    have later : (∀ t ∈ symbols, t.name ∉ s.name :: earlier) ↔
        s.name ∉ symbols.map (·.name) ∧ ∀ t ∈ symbols, t.name ∉ earlier := by
      simp only [List.mem_cons, List.mem_map, not_or, not_exists, not_and, ← forall_and]
    rw [symbolProblems, List.append_eq_nil_iff, List.append_eq_nil_iff, ih, here, later,
      List.map_cons, List.nodup_cons, List.forall_mem_cons, List.forall_mem_cons]
    tauto

theorem mem_entries_foldlM {ι α : Type} {add : Graph → ι → Except ModelError Graph}
    (table : Graph → Table α) (key : ι → Name) (value : ι → Except ModelError α)
    (step : ∀ g i g', add g i = .ok g' →
      ∃ v, value i = .ok v ∧ table g' = (table g).insert (key i) v)
    {items : List ι} (distinct : (items.map key).Nodup) {g g' : Graph}
    (added : items.foldlM add g = .ok g') (e : Name × α) :
    e ∈ (table g').entries ↔
      (∃ i ∈ items, key i = e.1 ∧ value i = .ok e.2) ∨
        (e ∈ (table g).entries ∧ e.1 ∉ items.map key) := by
  induction items generalizing g with
  | nil =>
    cases added
    simp
  | cons i items ih =>
    rw [List.foldlM_cons] at added
    obtain ⟨g₁, here, later⟩ := bind_eq_ok_iff.mp added
    obtain ⟨v, read, put⟩ := step g i g₁ here
    obtain ⟨first, rest⟩ := List.nodup_cons.mp distinct
    -- no later item has the name of this one, so none replaces its entry
    rw [ih rest later, put, Table.mem_entries_insert]
    have own : e = (key i, v) ↔ key i = e.1 ∧ value i = .ok e.2 := by
      rw [read, Except.ok.injEq, Prod.ext_iff, eq_comm, @eq_comm _ v]
    have kept : key i = e.1 ∧ value i = .ok e.2 → e.1 ∉ items.map key := fun h => h.1 ▸ first
    rw [own, List.exists_mem_cons_iff, List.map_cons, List.mem_cons, not_or, or_and_right,
      and_iff_left_of_imp kept, or_left_comm, or_assoc, and_assoc]

theorem addSymbol_eq_ok {g g' : Graph} {s : SymbolSpec} (added : addSymbol g s = .ok g') :
    ∃ type?, TypeSpec.toTy? s.name s.type? = .ok type? ∧ g' = g.define ⟨s.name, type?⟩ := by
  obtain ⟨type?, read, done⟩ := bind_eq_ok_iff.mp added
  exact ⟨type?, read, inserted_eq_ok done⟩

theorem addAlias_eq_ok {g g' : Graph} {a : Name × TypeSpec} (added : addAlias g a = .ok g') :
    ∃ target, a.2.toTy a.1 = .ok target ∧ g' = g.addAlias a.1 target := by
  obtain ⟨target, read, done⟩ := bind_eq_ok_iff.mp added
  exact ⟨target, read, (Except.ok.inj done).symm⟩

theorem foldlM_keeps {ι β : Type} {add : Graph → ι → Except ModelError Graph} (part : Graph → β)
    (step : ∀ g i g', add g i = .ok g' → part g' = part g) {items : List ι} {g g' : Graph}
    (added : items.foldlM add g = .ok g') : part g' = part g := by
  induction items generalizing g with
  | nil =>
    cases added
    rfl
  | cons i items ih =>
    rw [List.foldlM_cons] at added
    obtain ⟨g₁, here, later⟩ := bind_eq_ok_iff.mp added
    rw [ih later, step g i g₁ here]

theorem addSymbols_eq_ok {symbols : List SymbolSpec} (distinct : (symbols.map (·.name)).Nodup)
    {g : Graph} (added : symbols.foldlM addSymbol {} = .ok g) :
    (∀ e, e ∈ g.symbols.entries ↔ ∃ s ∈ symbols, s.name = e.1 ∧
      (TypeSpec.toTy? s.name s.type?).map (Symbol.mk s.name) = .ok e.2) ∧
      g.aliases = .empty ∧ g.exports = .empty := by
  constructor
  · intro e
    have step (g : Graph) (s : SymbolSpec) (g' : Graph) (here : addSymbol g s = .ok g') :
        ∃ symbol, (TypeSpec.toTy? s.name s.type?).map (Symbol.mk s.name) = .ok symbol ∧
          g'.symbols.toTable = g.symbols.toTable.insert s.name symbol := by
      obtain ⟨type?, read, rfl⟩ := addSymbol_eq_ok here
      exact ⟨⟨s.name, type?⟩, by rw [read]; rfl, rfl⟩
    rw [mem_entries_foldlM (·.symbols.toTable) _ _ step distinct added e]
    exact or_iff_left fun h => List.not_mem_nil h.1
  · refine Prod.mk.inj (foldlM_keeps (fun g => (g.aliases, g.exports)) ?_ added)
    intro g s g' here
    obtain ⟨type?, -, rfl⟩ := addSymbol_eq_ok here
    rfl

theorem addAliases_keep {aliases : List (Name × TypeSpec)} {g g' : Graph}
    (added : aliases.foldlM addAlias g = .ok g') :
    g'.symbols = g.symbols ∧ g'.exports = g.exports := by
  refine Prod.mk.inj (foldlM_keeps (fun g => (g.symbols, g.exports)) ?_ added)
  intro g a g' here
  obtain ⟨target, -, rfl⟩ := addAlias_eq_ok here
  rfl

theorem addAliases_eq_ok {aliases : List (Name × TypeSpec)}
    (distinct : (aliases.map (·.1)).Nodup) {g g' : Graph} (none : g.aliases = .empty)
    (added : aliases.foldlM addAlias g = .ok g') (e : Name × Ty) :
    e ∈ g'.aliases.entries ↔ ∃ a ∈ aliases, a.1 = e.1 ∧ a.2.toTy a.1 = .ok e.2 := by
  have step (g : Graph) (a : Name × TypeSpec) (g' : Graph) (here : addAlias g a = .ok g') :
      ∃ target, a.2.toTy a.1 = .ok target ∧ g'.aliases = g.aliases.insert a.1 target := by
    obtain ⟨target, read, rfl⟩ := addAlias_eq_ok here
    exact ⟨target, read, rfl⟩
  rw [mem_entries_foldlM Graph.aliases _ _ step distinct added e, none]
  exact or_iff_left fun h => List.not_mem_nil h.1

theorem foldl_addExport (names : List Name) (g : Graph) :
    names.foldl Graph.addExport g = { g with exports := names.foldl NameSet.add g.exports } := by
  induction names generalizing g with
  | nil => rfl
  | cons n names ih =>
    rw [List.foldl_cons, ih]
    rfl

namespace ProgramSpec

structure Describes (p : ProgramSpec) (g : Graph) : Prop where
  symbols : ∀ e, e ∈ g.symbols.entries ↔ ∃ s ∈ p.symbols, s.name = e.1 ∧
    (TypeSpec.toTy? s.name s.type?).map (Symbol.mk s.name) = .ok e.2
  aliases : ∀ e, e ∈ g.aliases.entries ↔ ∃ a ∈ p.aliases, a.1 = e.1 ∧ a.2.toTy a.1 = .ok e.2
  exports : ∀ n, n ∈ g.exports.names ↔ n ∈ p.exports

/-- Dumps with the same symbols and the same aliases in any order, and with the same exports in any
order and number. -/
structure Reorders (p p' : ProgramSpec) : Prop where
  symbols : p.symbols.Perm p'.symbols
  aliases : p.aliases.Perm p'.aliases
  distinct : (p.aliases.map (·.1)).Nodup
  exports : ∀ n, n ∈ p.exports ↔ n ∈ p'.exports

theorem problems_eq_nil_iff (p : ProgramSpec) :
    p.problems = [] ↔
      (∀ s ∈ p.symbols, TypeSpec.problems? s.name s.type? = []) ∧
        (p.symbols.map (·.name)).Nodup ∧ ∀ a ∈ p.aliases, a.2.problems a.1 = [] := by
  have free : ∀ s ∈ p.symbols, s.name ∉ ([] : List Name) := fun _ _ => List.not_mem_nil
  rw [problems, List.append_eq_nil_iff, symbolProblems_eq_nil_iff, List.flatMap_eq_nil_iff,
    and_iff_left free, and_assoc]

theorem symbols_of_toGraph {p : ProgramSpec} {g : Graph} (converted : p.toGraph = .ok g)
    (e : Name × Symbol) : e ∈ g.symbols.entries ↔ ∃ s ∈ p.symbols, s.name = e.1 ∧
      (TypeSpec.toTy? s.name s.type?).map (Symbol.mk s.name) = .ok e.2 := by
  have sound := p.problems_eq_nil_iff.mp (p.toGraph_reports.ok_iff.mp ⟨g, converted⟩)
  obtain ⟨g₁, first, rest⟩ := bind_eq_ok_iff.mp converted
  obtain ⟨g₂, second, done⟩ := bind_eq_ok_iff.mp rest
  obtain rfl := Except.ok.inj done
  rw [foldl_addExport, (addAliases_keep second).1]
  exact (addSymbols_eq_ok sound.2.1 first).1 e

theorem describes_of_toGraph {p : ProgramSpec} {g : Graph}
    (distinct : (p.aliases.map (·.1)).Nodup) (converted : p.toGraph = .ok g) : p.Describes g := by
  have symbols := symbols_of_toGraph converted
  have sound := p.problems_eq_nil_iff.mp (p.toGraph_reports.ok_iff.mp ⟨g, converted⟩)
  obtain ⟨g₁, first, rest⟩ := bind_eq_ok_iff.mp converted
  obtain ⟨g₂, second, done⟩ := bind_eq_ok_iff.mp rest
  obtain ⟨-, noAliases, noExports⟩ := addSymbols_eq_ok sound.2.1 first
  have aliases := addAliases_eq_ok distinct noAliases second
  have sameExports := (addAliases_keep second).2
  obtain rfl := Except.ok.inj done
  refine ⟨symbols, ?_, ?_⟩
  · rw [foldl_addExport]
    exact aliases
  · intro n
    rw [foldl_addExport, NameSet.mem_names_foldl_add, sameExports, noExports]
    exact or_iff_left List.not_mem_nil

end ProgramSpec

namespace ProgramSpec.Reorders

variable {p p' : ProgramSpec} (same : p.Reorders p')

include same

theorem problems_eq_nil_iff : p.problems = [] ↔ p'.problems = [] := by
  rw [p.problems_eq_nil_iff, p'.problems_eq_nil_iff, (same.symbols.map _).nodup_iff]
  simp only [same.symbols.mem_iff, same.aliases.mem_iff]

theorem converts_iff : (∃ g, p.toGraph = .ok g) ↔ ∃ g, p'.toGraph = .ok g := by
  rw [p.toGraph_reports.ok_iff, p'.toGraph_reports.ok_iff, same.problems_eq_nil_iff]

theorem eq_of_describes {g g' : Graph} (h : p.Describes g) (h' : p'.Describes g') : g = g' := by
  have symbols : g.symbols = g'.symbols := by
    refine SymbolTable.eq_of_mem_entries_iff fun e => ?_
    rw [h.symbols, h'.symbols]
    simp only [same.symbols.mem_iff]
  have aliases : g.aliases = g'.aliases := by
    refine Table.eq_of_mem_entries_iff fun e => ?_
    rw [h.aliases, h'.aliases]
    simp only [same.aliases.mem_iff]
  have exports : g.exports = g'.exports := by
    refine NameSet.eq_of_mem_names_iff fun n => ?_
    rw [h.exports, h'.exports, same.exports]
  cases g
  cases g'
  cases symbols
  cases aliases
  cases exports
  rfl

theorem toGraph_eq {g g' : Graph} (converted : p.toGraph = .ok g)
    (converted' : p'.toGraph = .ok g') : g = g' := by
  have distinct : (p'.aliases.map (·.1)).Nodup := (same.aliases.map _).nodup_iff.mp same.distinct
  exact same.eq_of_describes (describes_of_toGraph same.distinct converted)
    (describes_of_toGraph distinct converted')

end ProgramSpec.Reorders

end Dump

def Config.withEntryPoints (c : Config) (names? : Option (List Name)) : Config :=
  { c with entryPoints? := names? }

theorem Graph.emit_withEntryPoints (g : Graph) (view : MemberView) (config : Config)
    (names? : Option (List Name)) {given given' : List Name}
    (same : ∀ e, e ∈ given ∧ config.emits e = true ↔
      e ∈ given' ∧ (config.withEntryPoints names?).emits e = true) :
    g.emit view config given = g.emit view (config.withEntryPoints names?) given' := by
  rw [emit_eq_join, emit_eq_join, Config.emittedSet_congr same]
  rfl

namespace Dump

/-- Dumps that differ in order only succeed or fail alike and describe one program, and emissions
that are left with the same exports have the same result. -/
theorem order_independent :
    (∀ p p' : ProgramSpec, p.Reorders p' →
      ((∃ g, p.toGraph = .ok g) ↔ ∃ g, p'.toGraph = .ok g) ∧
      ∀ g g', p.toGraph = .ok g → p'.toGraph = .ok g' →
        g = g' ∧ (∀ view config given, g.emit view config given = g'.emit view config given) ∧
          g.listing = g'.listing) ∧
    ∀ (g : Graph) view config names? given given',
      (∀ e, e ∈ given ∧ config.emits e = true ↔
        e ∈ given' ∧ (config.withEntryPoints names?).emits e = true) →
      g.emit view config given = g.emit view (config.withEntryPoints names?) given' := by
  constructor
  · intro p p' same
    refine ⟨same.converts_iff, fun g g' converted converted' => ?_⟩
    obtain rfl := same.toGraph_eq converted converted'
    exact ⟨rfl, fun _ _ _ => rfl, rfl⟩
  · intro g view config names? given given' same
    exact g.emit_withEntryPoints view config names? same

def shelf : ProgramSpec where
  exports := ["lib", "lib.Id"]
  symbols := [⟨"lib", some (.record [("size", .primitive .number)])⟩,
    ⟨"lib.Id", some (.primitive .none)⟩]
  aliases := [("lib.Id", .primitive .string), ("lib.Key", .named "lib.Id")]

def reshelved : ProgramSpec where
  exports := ["lib.Id", "lib", "lib.Id"]
  symbols := [⟨"lib.Id", some (.primitive .none)⟩,
    ⟨"lib", some (.record [("size", .primitive .number)])⟩]
  aliases := [("lib.Key", .named "lib.Id"), ("lib.Id", .primitive .string)]

theorem shelf_order_independent :
    shelf.Reorders reshelved ∧
      (∃ g, shelf.toGraph = .ok g ∧ reshelved.toGraph = .ok g) ∧
      ∃ text, Graph.library.emit .direct {} ["lib"] = .ok text ∧
        Graph.library.emit .direct (Config.withEntryPoints {} (some ["lib", "lost"]))
          ["lib.Util", "lib", "lib"] = .ok text := by
  have same : shelf.Reorders reshelved :=
    { symbols := .swap _ _ [], aliases := .swap _ _ [], distinct := by decide
      exports := fun n => by grind [shelf, reshelved] }
  obtain ⟨dumps, lists⟩ := order_independent
  obtain ⟨alike, equal⟩ := dumps shelf reshelved same
  obtain ⟨g, converted⟩ := shelf.toGraph_reports.ok_iff.mpr (by decide)
  obtain ⟨g', converted'⟩ := alike.mp ⟨g, converted⟩
  obtain ⟨rfl, -⟩ := equal g g' converted converted'
  obtain ⟨text, done⟩ := (Graph.library.emit_ok_iff .direct {} ["lib"]).mpr (by decide)
  have left := lists Graph.library .direct {} (some ["lib", "lost"]) ["lib"]
    ["lib.Util", "lib", "lib"] fun e => by grind [Config.emits, Config.withEntryPoints]
  exact ⟨same, ⟨g, converted, converted'⟩, text, done, left ▸ done⟩

end Dump

end Ambient
