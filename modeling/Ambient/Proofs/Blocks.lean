import Ambient.Proofs.Run
import Ambient.Proofs.Tables

namespace Ambient

namespace Config

def emitted (c : Config) (given : List Name) : List Name :=
  (NameSet.ofList (given.filter c.emits)).names

theorem emitted_ascending (c : Config) (given : List Name) :
    (c.emitted given).Pairwise (· < ·) :=
  Table.names_ascending _

theorem mem_emitted_iff (c : Config) (given : List Name) (e : Name) :
    e ∈ c.emitted given ↔ e ∈ given ∧ c.emits e = true :=
  (NameSet.mem_names_ofList _ e).trans List.mem_filter

end Config

namespace Symbol

/-- Whether a symbol is declared in the block of a namespace export: it is a direct child with a
type, it has no block of its own, and it belongs to no prototype. -/
def isEligible (s : Symbol) (emitted : List Name) (ns : Name) : Bool :=
  s.name.isDirectChild ns && s.type?.any (!·.isPrototype) && !emitted.contains s.name &&
    !s.isPrototypeMethod

theorem isEligible_iff (s : Symbol) (emitted : List Name) (ns : Name) :
    s.isEligible emitted ns = true ↔
      s.name.isDirectChild ns = true ∧ (∃ type, s.type? = some type ∧ type.isPrototype = false) ∧
        s.name ∉ emitted ∧ s.isPrototypeMethod = false := by
  simp [isEligible, Option.any_eq_true, and_assoc]

end Symbol

namespace Graph

variable (g : Graph)

/-- Whether an export is declared itself, and not as the namespace of its children. -/
def isDefaultExport (e : Name) : Bool :=
  ((g.resolve? e).bind (·.type?)).any Ty.isDefaultExport

def blockNamespace (e : Name) : Name := if g.isDefaultExport e then e.parent else e

def eligible (emitted : List Name) (ns : Name) : List Symbol :=
  g.symbolList.filter (·.isEligible emitted ns)

def blockSymbols (emitted : List Name) (e : Name) : List Symbol :=
  if g.isDefaultExport e then (g.resolve? e).toList else g.eligible emitted e

theorem mem_eligible_iff (emitted : List Name) (ns : Name) (s : Symbol) :
    s ∈ g.eligible emitted ns ↔ s ∈ g.symbolList ∧ s.isEligible emitted ns = true :=
  List.mem_filter

theorem eligible_ascending (emitted : List Name) (ns : Name) :
    (g.eligible emitted ns).Pairwise (·.name < ·.name) :=
  g.symbolList_ascending.filter _

theorem filter_childrenOf (emitted : List Name) (ns : Name) :
    (g.childrenOf ns).filter (·.isEligible emitted ns) = g.eligible emitted ns := by
  rw [childrenOf_eq_filter, List.filter_filter]
  refine List.filter_congr fun s _ => ?_
  cases kept : s.isEligible emitted ns with
  | false => rfl
  | true =>
    have child := ((s.isEligible_iff emitted ns).mp kept).1
    exact Name.isSome_under?_of_isDirectChild child

theorem place_eq_ok_iff (e : Name) (p : PlacedExport) :
    g.place e = .ok p ↔ p.name = e ∧ g.resolve? e = some ⟨e, some p.type⟩ := by
  obtain ⟨name, type⟩ := p
  unfold place
  cases resolved : g.resolve? e with
  | none => simp
  | some s =>
    obtain ⟨key, type?⟩ := s
    obtain rfl : key = e := ((g.resolve?_eq_some_iff e _).mp resolved).2
    cases type? with
    | none => simp
    | some stored =>
      constructor
      · intro placed
        cases placed
        exact ⟨rfl, rfl⟩
      · rintro ⟨rfl, same⟩
        cases same
        rfl

theorem isDefault_of_place {e : Name} {p : PlacedExport} (placed : g.place e = .ok p) :
    g.isDefaultExport e = p.isDefault ∧ g.blockNamespace e = p.namespaceName := by
  obtain ⟨rfl, resolved⟩ := (g.place_eq_ok_iff e p).mp placed
  have same : g.isDefaultExport p.name = p.isDefault := by
    unfold isDefaultExport
    rw [resolved]
    rfl
  refine ⟨same, ?_⟩
  unfold blockNamespace PlacedExport.namespaceName
  rw [same]

theorem typed_of_mem_blockSymbols (emitted : List Name) {e : Name} {p : PlacedExport}
    (placed : g.place e = .ok p) (s : Symbol) (member : s ∈ g.blockSymbols emitted e) :
    ∃ type, s.type? = some type := by
  obtain ⟨-, resolved⟩ := (g.place_eq_ok_iff e p).mp placed
  unfold blockSymbols at member
  split at member
  · rw [resolved, Option.toList_some, List.mem_singleton] at member
    exact ⟨p.type, congrArg Symbol.type? member⟩
  · have kept := ((g.mem_eligible_iff emitted e s).mp member).2
    obtain ⟨-, ⟨type, typed, -⟩, -, -⟩ := (s.isEligible_iff emitted e).mp kept
    exact ⟨type, typed⟩

theorem mem_symbolList_of_blockSymbols {emitted : List Name} {e : Name} {s : Symbol}
    (member : s ∈ g.blockSymbols emitted e) : s ∈ g.symbolList := by
  unfold blockSymbols at member
  split at member
  · have resolved : g.resolve? e = some s := Option.mem_toList.mp member
    exact ((g.resolve?_eq_some_iff e s).mp resolved).1
  · exact ((g.mem_eligible_iff emitted e s).mp member).1

def library : Graph where
  symbols := .ofAscending [⟨"lib", some (.record [])⟩,
    ⟨"lib.Util", some (.classlike (.empty "lib.Util" .constructor))⟩,
    ⟨"lib.a", some (.primitive .number)⟩, ⟨"lib.a.deep", some (.primitive .number)⟩,
    ⟨"lib.late", none⟩] (by decide)
  exports := ⟨[("lib", ()), ("lib.Util", ())], by decide⟩

end Graph

namespace Emission

variable (em : Emission)

def declaredAs? (s : Symbol) : Option Declared := s.type?.map (Declared.mk s.name)

theorem declaredBelow?_eq (ns : Name) (s : Symbol) :
    em.declaredBelow? ns s =
      if s.isEligible em.exports.names ns then declaredAs? s else none := by
  have member := em.exports.contains_iff s.name
  unfold declaredBelow?
  cases found : em.sibling ns s with
  | ok type =>
    obtain ⟨child, apart, typed, plain, free⟩ := (em.sibling_eq_ok_iff ns s type).mp found
    have kept : s.isEligible em.exports.names ns = true := by
      refine (s.isEligible_iff _ ns).mpr ⟨child, ⟨type, typed, plain⟩, ?_, free⟩
      intro emitted
      rw [member.mpr emitted] at apart
      contradiction
    rw [if_pos kept, declaredAs?, typed]
    rfl
  | error reason =>
    have dropped : ¬ s.isEligible em.exports.names ns = true := by
      intro kept
      obtain ⟨child, ⟨type, typed, plain⟩, apart, free⟩ := (s.isEligible_iff _ ns).mp kept
      have absent : em.exports.contains s.name = false := by simpa [← member] using apart
      have allowed := (em.sibling_eq_ok_iff ns s type).mpr ⟨child, absent, typed, plain, free⟩
      rw [found] at allowed
      contradiction
    rw [if_neg dropped]

theorem declared_eq {e : Name} {p : PlacedExport} (placed : em.graph.place e = .ok p) :
    em.declared p = (em.graph.blockSymbols em.exports.names e).filterMap declaredAs? := by
  obtain ⟨same, block⟩ := em.graph.isDefault_of_place placed
  obtain ⟨named, resolved⟩ := (em.graph.place_eq_ok_iff e p).mp placed
  unfold declared Graph.blockSymbols
  rw [same]
  cases kind : p.isDefault with
  | true =>
    rw [resolved, ← named]
    rfl
  | false =>
    have ns : p.namespaceName = e := by
      rw [← block, Graph.blockNamespace, same, kind]
      rfl
    have below : em.declaredBelow? e =
        fun s => if s.isEligible em.exports.names e then declaredAs? s else none :=
      funext (em.declaredBelow?_eq e)
    rw [if_neg (by decide), if_neg (by decide), ns, below, ← em.graph.filter_childrenOf,
      List.filterMap_filter]

theorem mem_blockSymbols_of_declared {e : Name} {p : PlacedExport}
    (placed : em.graph.place e = .ok p) {d : Declared} (member : d ∈ em.declared p) :
    ⟨d.symbol, some d.type⟩ ∈ em.graph.blockSymbols em.exports.names e := by
  rw [em.declared_eq placed] at member
  obtain ⟨s, inside, typed⟩ := List.mem_filterMap.mp member
  obtain ⟨type, stored, rfl⟩ := Option.map_eq_some_iff.mp typed
  have same : s = ⟨s.name, some type⟩ := by rw [← stored]
  exact same ▸ inside

theorem declared_names {e : Name} {p : PlacedExport} (placed : em.graph.place e = .ok p) :
    (em.declared p).map (·.symbol) =
      (em.graph.blockSymbols em.exports.names e).map (·.name) := by
  have typed := em.graph.typed_of_mem_blockSymbols em.exports.names placed
  rw [em.declared_eq placed]
  generalize em.graph.blockSymbols em.exports.names e = symbols at typed ⊢
  induction symbols with
  | nil => rfl
  | cons s symbols ih =>
    obtain ⟨⟨type, first⟩, rest⟩ := List.forall_mem_cons.mp typed
    have head : declaredAs? s = some ⟨s.name, type⟩ := by
      rw [declaredAs?, first]
      rfl
    rw [List.filterMap_cons_some head, List.map_cons, List.map_cons, ih rest]

end Emission

end Ambient
