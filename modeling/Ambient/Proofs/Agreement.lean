import Ambient.Proofs.Declared
import Ambient.Proofs.Reads
import Ambient.Proofs.Settings

/-!
What an emission reads of the program. It resolves the exports, takes the typed children of those
that are namespaces, asks for the target of a declared symbol that kept only the empty type, and
follows the name of an instance type once. Programs that agree on these give the same document or
the same error, so all their other symbols and aliases may differ.
-/
namespace Ambient.Graph

variable (g g' : Graph)

def typedChildren (ns : Name) : List Symbol :=
  g.symbolList.filter fun s => s.name.isDirectChild ns && s.type?.isSome

def IsNamespaceExport (e : Name) : Prop :=
  ∃ type, g.resolve? e = some ⟨e, some type⟩ ∧ type.isDefaultExport = false

/-- Whether a symbol is declared by an emission, which is to say walked. -/
def Declares (view : MemberView) (config : Config) (given : List Name) (s : Symbol) : Prop :=
  g.resolve? s.name = some s ∧ s.name ∈ (g.emitLog view config given).filterMap Event.walked?

/-- Agreement of two programs on what an emission of the first one reads. -/
structure Agrees (view : MemberView) (config : Config) (given : List Name) : Prop where
  exports : ∀ e ∈ config.emitted given, g.resolve? e = g'.resolve? e
  children : ∀ e ∈ config.emitted given, g.IsNamespaceExport e →
    g.typedChildren e = g'.typedChildren e
  targets : ∀ s, g.Declares view config given s → s.type? = some (.primitive .none) →
    g.aliasTarget? s.name = g'.aliasTarget? s.name
  instances : ∀ s c n, g.Declares view config given s → s.type? = some (.classlike c) →
    c.instanceType = .named n → g.resolve? n = g'.resolve? n

theorem mem_typedChildren_iff (ns : Name) (s : Symbol) :
    s ∈ g.typedChildren ns ↔
      g.resolve? s.name = some s ∧ s.name.isDirectChild ns = true ∧ s.type?.isSome = true := by
  simp [typedChildren, resolve?_eq_some_iff]

theorem typedChildren_ascending (ns : Name) :
    (g.typedChildren ns).Pairwise (·.name < ·.name) :=
  g.symbolList_ascending.filter _

theorem eligible_eq_filter (emitted : List Name) (ns : Name) :
    g.eligible emitted ns = (g.typedChildren ns).filter (·.isEligible emitted ns) := by
  unfold eligible typedChildren
  rw [List.filter_filter]
  refine List.filter_congr fun s _ => ?_
  cases kept : s.isEligible emitted ns with
  | false => rfl
  | true =>
    obtain ⟨child, ⟨type, typed, -⟩, -⟩ := (s.isEligible_iff emitted ns).mp kept
    simp [child, typed]

variable {g g'}

theorem membersOf?_congr (view : MemberView) {t : Ty}
    (same : ∀ n, t = .named n → g.resolve? n = g'.resolve? n) :
    g.membersOf? view t = g'.membersOf? view t := by
  cases t with
  | named n =>
    cases view with
    | direct => rfl
    | throughNames =>
      have read := same n rfl
      simp only [membersOf?, namedFields?, read]
  | _ => rfl

theorem blockSymbols_congr {e : Name} {type : Ty} (resolved : g.resolve? e = some ⟨e, some type⟩)
    (same : g.resolve? e = g'.resolve? e)
    (children : g.IsNamespaceExport e → g.typedChildren e = g'.typedChildren e)
    (emitted : List Name) : g.blockSymbols emitted e = g'.blockSymbols emitted e := by
  have kind : g.isDefaultExport e = g'.isDefaultExport e := by
    unfold isDefaultExport
    rw [same]
  unfold blockSymbols
  rw [← kind, ← same]
  cases default : g.isDefaultExport e with
  | true => rfl
  | false =>
    have namespaced : type.isDefaultExport = false := by
      simpa [isDefaultExport, resolved] using default
    rw [eligible_eq_filter, eligible_eq_filter, children ⟨type, resolved, namespaced⟩]

theorem exportProblem?_congr {e : Name} (same : g.resolve? e = g'.resolve? e)
    (children : g.IsNamespaceExport e → g.typedChildren e = g'.typedChildren e)
    (emitted : List Name) : g.exportProblem? emitted e = g'.exportProblem? emitted e := by
  unfold exportProblem? blockNamespace isDefaultExport
  rw [← same]
  cases resolved : g.resolve? e with
  | none => rfl
  | some s =>
    obtain ⟨name, type?⟩ := s
    cases type? with
    | none => rfl
    | some type =>
      have named : name = e := ((g.resolve?_eq_some_iff e _).mp resolved).2
      subst named
      rw [blockSymbols_congr resolved same children]

variable {view : MemberView} {config : Config} {given : List Name}

theorem declares_of_mem_blockSymbols
    (sound : (Emission.ofGiven g view config given).firstError? = none) {e : Name} {s : Symbol}
    (he : e ∈ config.emitted given) (member : s ∈ g.blockSymbols (config.emitted given) e) :
    g.Declares view config given s := by
  have known := g.mem_symbolList_of_blockSymbols member
  refine ⟨(g.resolve?_eq_some_iff s.name s).mpr ⟨known, rfl⟩, ?_⟩
  rw [g.emitLog_walked view config given sound]
  refine List.mem_flatMap.mpr ⟨e, he, ?_⟩
  rw [← g.blockSymbols_names]
  exact List.mem_map_of_mem member

namespace Agrees

theorem section?_eq (agree : g.Agrees g' view config given)
    (sound : (Emission.ofGiven g view config given).firstError? = none) {e : Name}
    (he : e ∈ config.emitted given) :
    (Emission.ofGiven g view config given).section? e =
      (Emission.ofGiven g' view config given).section? e := by
  have same := agree.exports e he
  have placed : g.place e = g'.place e := by
    unfold place
    rw [same]
  have blocks {p : PlacedExport} (found : g.place e = .ok p) :
      g.blockSymbols (config.emitted given) e = g'.blockSymbols (config.emitted given) e :=
    blockSymbols_congr ((g.place_eq_ok_iff e p).mp found).2 same (agree.children e he) _
  refine Emission.section?_congr placed ?_ ?_
  · intro p found
    have symbols := blocks found
    have found' : g'.place e = .ok p := placed ▸ found
    rw [Emission.declared_eq _ found, Emission.declared_eq _ found']
    exact congrArg (List.filterMap Emission.declaredAs?) symbols
  · intro p found d member
    rw [Emission.declared_eq _ found] at member
    obtain ⟨s, inside, typed⟩ := List.mem_filterMap.mp member
    have declared := declares_of_mem_blockSymbols sound he inside
    obtain ⟨type, stored, rfl⟩ := Option.map_eq_some_iff.mp typed
    refine Emission.declaration_congr ?_ _ _ _ ?_ ?_
    · rfl
    · rintro c rfl
      have read := membersOf?_congr view fun n named => agree.instances s c n declared stored named
      exact congrArg (Option.getD · []) read
    · rintro rfl
      exact agree.targets s declared stored

theorem emit_eq (agree : g.Agrees g' view config given) :
    g.emit view config given = g'.emit view config given := by
  have problems : (config.emitted given).findSome? (g.exportProblem? (config.emitted given)) =
      (config.emitted given).findSome? (g'.exportProblem? (config.emitted given)) := by
    rw [← List.head?_filterMap, ← List.head?_filterMap]
    refine congrArg List.head? (List.filterMap_congr fun e he => ?_)
    exact exportProblem?_congr (agree.exports e he) (agree.children e he) _
  cases outcome : g.emit view config given with
  | error error =>
    have problem := (g.emit_error_iff_exportProblem? view config given error).mp outcome
    rw [problems] at problem
    exact ((g'.emit_error_iff_exportProblem? view config given error).mpr problem).symm
  | ok text =>
    have sound := (g.emit_ok_iff view config given).mp ⟨text, outcome⟩
    have sections : (Emission.ofGiven g view config given).sections =
        (Emission.ofGiven g' view config given).sections := by
      refine Emission.sections_congr ?_ ?_
      · rfl
      · intro e he
        exact agree.section?_eq sound he
    rw [← outcome, emit_eq_document, emit_eq_document, Emission.document, sections]
    rfl

end Agrees

variable (g g' view config given)

/-- Whether the symbol of a name may differ between two programs: the name is not emitted, not the
name of an instance type, and a direct child of an emitted namespace only without a type. -/
structure Unread (n : Name) : Prop where
  notEmitted : n ∉ config.emitted given
  notTypedChild : ∀ e ∈ config.emitted given, g.IsNamespaceExport e → n.isDirectChild e = true →
    g.Untyped n ∧ g'.Untyped n
  notInstance : ∀ s c, g.Declares view config given s → s.type? = some (.classlike c) →
    c.instanceType ≠ .named n

/-- Whether the target of an alias may differ: its name is no declared symbol with the empty
type. -/
def UnreadAlias (n : Name) : Prop :=
  ∀ s, g.Declares view config given s → s.name = n → s.type? ≠ some (.primitive .none)

variable {g g' view config given}

theorem typedChildren_congr {ns : Name}
    (same : ∀ n type, n.isDirectChild ns = true →
      (g.resolve? n = some ⟨n, some type⟩ ↔ g'.resolve? n = some ⟨n, some type⟩)) :
    g.typedChildren ns = g'.typedChildren ns := by
  refine eq_of_ascending (g.typedChildren_ascending ns) (g'.typedChildren_ascending ns) ?_
  rintro ⟨n, type?⟩
  rw [mem_typedChildren_iff, mem_typedChildren_iff]
  cases type? with
  | none => simp
  | some type =>
    refine and_congr_left ?_
    rintro ⟨child, -⟩
    exact same n type child

theorem not_typed_of_untyped {n : Name} (untyped : g.Untyped n) (type : Ty) :
    g.resolve? n ≠ some ⟨n, some type⟩ := by
  intro resolved
  rw [Untyped, resolved] at untyped
  contradiction

theorem agrees_of_unread
    (symbols : ∀ n, g.resolve? n ≠ g'.resolve? n → g.Unread g' view config given n)
    (aliases : ∀ n, g.aliasTarget? n ≠ g'.aliasTarget? n → g.UnreadAlias view config given n) :
    g.Agrees g' view config given where
  exports := by
    intro e he
    by_contra differ
    exact (symbols e differ).notEmitted he
  children := by
    intro e he namespaced
    refine typedChildren_congr fun n type child => ?_
    by_cases same : g.resolve? n = g'.resolve? n
    · rw [same]
    · obtain ⟨untyped, untyped'⟩ := (symbols n same).notTypedChild e he namespaced child
      exact iff_of_false (not_typed_of_untyped untyped type) (not_typed_of_untyped untyped' type)
  targets := by
    intro s declared empty
    by_contra differ
    exact aliases s.name differ s declared rfl empty
  instances := by
    intro s c n declared typed named
    by_contra differ
    exact (symbols n differ).notInstance s c declared typed named

/-- Programs that agree on what is read give the same document or the same error. So all symbols and
aliases that are not read may be added, removed or given other types. -/
theorem emit_reads_only :
    (g.Agrees g' view config given → g.emit view config given = g'.emit view config given) ∧
    ((∀ n, g.resolve? n ≠ g'.resolve? n → g.Unread g' view config given n) →
      (∀ n, g.aliasTarget? n ≠ g'.aliasTarget? n → g.UnreadAlias view config given n) →
      g.emit view config given = g'.emit view config given) := by
  constructor
  · exact Agrees.emit_eq
  · intro symbols aliases
    exact (agrees_of_unread symbols aliases).emit_eq

def shapes : Graph where
  symbols := .ofAscending [⟨"far.Shape", some (.record [("x", .primitive .number)])⟩,
    ⟨"lib", some (.record [])⟩,
    ⟨"lib.C", some (.classlike
      { name := "lib.C", kind := .constructor, instanceType := .named "far.Shape" })⟩,
    ⟨"lib.Id", some (.primitive .none)⟩, ⟨"lib.Id.deep", some (.primitive .number)⟩] (by decide)
  aliases := ⟨[("lib.Id", .named "far.Target")], by decide⟩

/-- The same with the symbol that the alias names, without the one below it, and with an alias for
the class. -/
def reshapes : Graph where
  symbols := .ofAscending [⟨"far.Shape", some (.record [("x", .primitive .number)])⟩,
    ⟨"far.Target", some (.primitive .string)⟩, ⟨"lib", some (.record [])⟩,
    ⟨"lib.C", some (.classlike
      { name := "lib.C", kind := .constructor, instanceType := .named "far.Shape" })⟩,
    ⟨"lib.Id", some (.primitive .none)⟩] (by decide)
  aliases := ⟨[("lib.C", .primitive .number), ("lib.Id", .named "far.Target")], by decide⟩

theorem shapes_emit_reads_only :
    shapes.Agrees reshapes .throughNames {} ["lib"] ∧
      shapes.emit .throughNames {} ["lib"] = reshapes.emit .throughNames {} ["lib"] := by
  have walked : (shapes.emitLog .throughNames {} ["lib"]).filterMap Event.walked? =
      ["lib.C", "lib.Id"] := by
    rw [emitLog_walked _ _ _ _ (by decide)]
    decide
  have agree : shapes.Agrees reshapes .throughNames {} ["lib"] := by
    refine ⟨?_, ?_, ?_, ?_⟩
    · intro e he
      cases List.mem_singleton.mp he
      rfl
    · intro e he _
      cases List.mem_singleton.mp he
      rfl
    · rintro ⟨name, type?⟩ ⟨resolved, member⟩ empty
      obtain rfl | rfl : name = "lib.C" ∨ name = "lib.Id" := by simpa [walked] using member
      · cases resolved
        cases empty
      · rfl
    · rintro ⟨name, type?⟩ c n ⟨resolved, member⟩ typed named
      obtain rfl | rfl : name = "lib.C" ∨ name = "lib.Id" := by simpa [walked] using member
      · cases resolved
        cases typed
        cases named
        rfl
      · cases resolved
        cases typed
  exact ⟨agree, emit_reads_only.1 agree⟩

end Ambient.Graph
