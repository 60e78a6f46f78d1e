import Ambient.Proofs.Blocks
import Mathlib.Data.List.Basic

namespace Ambient

def Symbol.instanceProblem? (s : Symbol) (ns : Name) : Option EmitError :=
  match s.type? with
  | some (.classlike c) =>
    if c.instanceType.isObject then none
    else some (.thisNotObject s.name (c.instanceType.render ns))
  | _ => none

namespace Graph

variable (g : Graph)

def exportProblem? (emitted : List Name) (e : Name) : Option EmitError :=
  match g.resolve? e with
  | none => some (.unresolvedExport e)
  | some ⟨_, none⟩ => some (.untypedSymbol e)
  | some ⟨_, some _⟩ =>
    (g.blockSymbols emitted e).findSome? (·.instanceProblem? (g.blockNamespace e))

def FirstProblem (emitted : List Name) (error : EmitError) : Prop :=
  ∃ before e after, emitted = before ++ e :: after ∧
    g.exportProblem? emitted e = some error ∧
    ∀ d ∈ before, g.exportProblem? emitted d = none

end Graph

namespace Emission

variable (em : Emission)

theorem declarationError?_declaredAs (ns : Name) (s : Symbol) :
    (declaredAs? s).bind (declarationError? ns) = s.instanceProblem? ns := by
  obtain ⟨name, type?⟩ := s
  cases type? with
  | none => rfl
  | some type => cases type <;> rfl

theorem exportError?_eq_exportProblem? (e : Name) :
    em.exportError? e = em.graph.exportProblem? em.exports.names e := by
  rw [exportError?_eq]
  cases placed : em.graph.place e with
  | ok p =>
    obtain ⟨-, resolved⟩ := (em.graph.place_eq_ok_iff e p).mp placed
    obtain ⟨-, block⟩ := em.graph.isDefault_of_place placed
    simp only [Graph.exportProblem?, resolved, block]
    rw [sectionError?, em.declared_eq placed, ← List.head?_filterMap, List.filterMap_filterMap,
      List.head?_filterMap]
    congr 1
    exact funext (declarationError?_declaredAs p.namespaceName)
  | error error =>
    unfold Graph.place at placed
    unfold Graph.exportProblem?
    cases resolved : em.graph.resolve? e with
    | none =>
      rw [resolved] at placed
      cases placed
      rfl
    | some s =>
      rw [resolved] at placed
      obtain ⟨name, type?⟩ := s
      cases type? with
      | none =>
        cases placed
        rfl
      | some type => contradiction

theorem firstError?_eq :
    em.firstError? = em.exports.names.findSome? (em.graph.exportProblem? em.exports.names) := by
  unfold firstError?
  congr 1
  exact funext em.exportError?_eq_exportProblem?

end Emission

namespace Graph

variable (g : Graph)

/-- There is no type under a name, be there a symbol or not. -/
def Untyped (n : Name) : Prop := (g.resolve? n).bind (·.type?) = none

theorem resolve?_define (s : Symbol) {e : Name} (other : e ≠ s.name) :
    (g.define s).resolve? e = g.resolve? e := by
  rw [resolve?_define_eq, if_neg (Ne.symm other)]

theorem eligible_define_untyped {n : Name} (untyped : g.Untyped n) (emitted : List Name)
    (ns : Name) : (g.define ⟨n, none⟩).eligible emitted ns = g.eligible emitted ns := by
  have typeless {s : Symbol} (h : s.type? = none) : s.isEligible emitted ns = false := by
    simp [Symbol.isEligible, h]
  unfold eligible symbolList
  rw [List.filter_map, List.filter_map]
  congr 1
  refine Table.filter_insertEntry (typeless rfl) ?_
  rintro ⟨name, s⟩ member rfl
  have found := (g.symbols.find?_eq_some_iff name s).mpr member
  unfold Untyped resolve? at untyped
  rw [found] at untyped
  exact typeless untyped

theorem exportProblem?_define_untyped {n : Name} (untyped : g.Untyped n) (emitted : List Name)
    {e : Name} (other : e ≠ n) :
    (g.define ⟨n, none⟩).exportProblem? emitted e = g.exportProblem? emitted e := by
  have resolved := g.resolve?_define ⟨n, none⟩ other
  have kind : (g.define ⟨n, none⟩).isDefaultExport e = g.isDefaultExport e := by
    unfold isDefaultExport
    rw [resolved]
  unfold exportProblem? blockSymbols blockNamespace
  rw [resolved, kind, g.eligible_define_untyped untyped]

theorem exportProblem?_cases {emitted : List Name} {e : Name} {error : EmitError}
    (problem : g.exportProblem? emitted e = some error) :
    error = .unresolvedExport e ∨ error = .untypedSymbol e ∨
      ∃ symbol found, error = .thisNotObject symbol found := by
  unfold exportProblem? at problem
  split at problem
  · exact .inl (Option.some.inj problem).symm
  · exact .inr (.inl (Option.some.inj problem).symm)
  · obtain ⟨-, s, -, -, found, -⟩ := List.findSome?_eq_some_iff.mp problem
    unfold Symbol.instanceProblem? at found
    split at found
    · split at found
      · contradiction
      · exact .inr (.inr ⟨_, _, (Option.some.inj found).symm⟩)
    · contradiction

variable (view : MemberView) (config : Config) (given : List Name)

theorem emit_error_iff_exportProblem? (error : EmitError) :
    g.emit view config given = .error error ↔
      (config.emitted given).findSome? (g.exportProblem? (config.emitted given)) =
        some error := by
  rw [emit_error_iff, Emission.firstError?_eq]
  rfl

theorem emit_ok_iff_exportProblem? :
    (∃ text, g.emit view config given = .ok text) ↔
      ∀ e ∈ config.emitted given, g.exportProblem? (config.emitted given) e = none := by
  rw [emit_ok_iff, Emission.firstError?_eq]
  exact List.findSome?_eq_none_iff

theorem emit_ne_untypedSymbol {n : Name} (absent : n ∉ config.emitted given) :
    g.emit view config given ≠ .error (.untypedSymbol n) := by
  intro failed
  rw [emit_error_iff_exportProblem?] at failed
  obtain ⟨before, e, after, split, problem, -⟩ := List.findSome?_eq_some_iff.mp failed
  have member : e ∈ config.emitted given := by simp [split]
  rcases g.exportProblem?_cases problem with other | named | ⟨symbol, found, other⟩
  · contradiction
  · cases named
    exact absent member
  · contradiction

theorem emit_error_define_untyped {n : Name} (absent : n ∉ config.emitted given)
    (untyped : g.Untyped n) (error : EmitError) :
    (g.define ⟨n, none⟩).emit view config given = .error error ↔
      g.emit view config given = .error error := by
  have same : (config.emitted given).findSome?
      ((g.define ⟨n, none⟩).exportProblem? (config.emitted given)) =
      (config.emitted given).findSome? (g.exportProblem? (config.emitted given)) := by
    rw [← List.head?_filterMap, ← List.head?_filterMap]
    refine congrArg List.head? (List.filterMap_congr fun e he => ?_)
    exact g.exportProblem?_define_untyped untyped _ fun same => absent (same ▸ he)
  rw [emit_error_iff_exportProblem?, emit_error_iff_exportProblem?, same]

/-- The first export with a problem decides the error of an emission, and without a problem it
succeeds. A symbol without a type that is not emitted is never an error, nor does it change one. -/
theorem outcome_decided :
    (config.emitted given).Pairwise (· < ·) ∧
    (∀ e, e ∈ config.emitted given ↔ e ∈ given ∧ config.emits e = true) ∧
    (∀ error, g.emit view config given = .error error ↔
      g.FirstProblem (config.emitted given) error) ∧
    ((∃ text, g.emit view config given = .ok text) ↔
      ∀ e ∈ config.emitted given, g.exportProblem? (config.emitted given) e = none) ∧
    (∀ n, n ∉ config.emitted given →
      g.emit view config given ≠ .error (.untypedSymbol n) ∧
      (g.Untyped n → ∀ error, (g.define ⟨n, none⟩).emit view config given = .error error ↔
        g.emit view config given = .error error)) := by
  refine ⟨config.emitted_ascending given, config.mem_emitted_iff given, ?_,
    g.emit_ok_iff_exportProblem? view config given, ?_⟩
  · intro error
    rw [emit_error_iff_exportProblem?]
    exact List.findSome?_eq_some_iff
  · intro n absent
    exact ⟨g.emit_ne_untypedSymbol view config given absent,
      g.emit_error_define_untyped view config given absent⟩

/-- A namespace with a class below it whose instances may be numbers. -/
def numbered : Graph where
  symbols := .ofAscending [⟨"lib", some (.record [])⟩,
    ⟨"lib.C", some (.classlike
      { name := "lib.C", kind := .constructor
        instanceType := .union [.primitive .noObject, .primitive .number] })⟩,
    ⟨"lib.a", some (.primitive .string)⟩] (by decide)
  exports := ⟨[("lib", ()), ("lost", ())], by decide⟩

theorem numbered_outcome_decided :
    numbered.emit .direct {} ["lost", "lib"] = .error (.thisNotObject "lib.C" "(any | number)") ∧
      "lib.late" ∉ Config.emitted {} ["lost", "lib"] ∧ numbered.Untyped "lib.late" ∧
      (numbered.define ⟨"lib.late", none⟩).emit .direct {} ["lost", "lib"] =
        .error (.thisNotObject "lib.C" "(any | number)") := by
  obtain ⟨-, -, decided, -, apart⟩ := outcome_decided numbered .direct {} ["lost", "lib"]
  have failed := (decided (.thisNotObject "lib.C" "(any | number)")).mpr
    ⟨[], "lib", ["lost"], by decide, by decide, List.forall_mem_nil _⟩
  have absent : "lib.late" ∉ Config.emitted {} ["lost", "lib"] := by decide
  have untyped : numbered.Untyped "lib.late" := by
    unfold Untyped
    rfl
  exact ⟨failed, absent, untyped, ((apart "lib.late" absent).2 untyped _).mpr failed⟩

end Graph

end Ambient
