import Ambient.Proofs.Comparison

namespace Ambient

namespace Graph

variable (g : Graph)

/-- Whether a name leads to fields: those of a record, or those of the instances of a class. -/
def NamesRecord (n : Name) : Prop :=
  ∃ type fields, g.resolve? n = some ⟨n, some type⟩ ∧
    (type = .record fields ∨ ∃ c, type = .classlike c ∧ c.instanceType = .record fields)

theorem namesRecord_of_namedFields? {n : Name} {fields : Properties}
    (found : g.namedFields? n = some fields) : g.NamesRecord n := by
  unfold namedFields? at found
  cases resolved : g.resolve? n with
  | none => simp [resolved] at found
  | some s =>
    obtain ⟨name, type?⟩ := s
    have named : name = n := ((g.resolve?_eq_some_iff n _).mp resolved).2
    subst named
    cases type? with
    | none => simp [resolved] at found
    | some type =>
      simp only [resolved, Option.bind_some] at found
      cases type with
      | record own => exact ⟨_, own, resolved, .inl rfl⟩
      | classlike c =>
        cases instances : c.instanceType with
        | record own => exact ⟨_, own, resolved, .inr ⟨c, rfl, instances⟩⟩
        | _ => simp [instances] at found
      | _ => contradiction

theorem namesRecord_iff (n : Name) : g.NamesRecord n ↔ (g.namedFields? n).isSome := by
  constructor
  · rintro ⟨type, fields, resolved, rfl | ⟨c, rfl, instances⟩⟩
    · simp [namedFields?, resolved]
    · simp [namedFields?, resolved, instances]
  · intro found
    obtain ⟨fields, read⟩ := Option.isSome_iff_exists.mp found
    exact g.namesRecord_of_namedFields? read

instance (n : Name) : Decidable (g.NamesRecord n) := decidable_of_iff _ (g.namesRecord_iff n).symm

theorem membersOf?_views {t : Ty} (direct : ∀ n, t = .named n → ¬ g.NamesRecord n) :
    g.membersOf? .direct t = g.membersOf? .throughNames t := by
  cases t with
  | named n =>
    have unread : g.namedFields? n = none := by
      simpa [namesRecord_iff] using direct n rfl
    simp [membersOf?, unread]
  | _ => rfl

/-- Whether two declarations are the same, or of one class or interface that has its instance fields
behind a name. -/
def SameButNamed (d d' : Declaration) : Prop :=
  d = d' ∨ d.symbol = d'.symbol ∧ d.kind = d'.kind ∧
    ∃ c n, g.resolve? d.symbol = some ⟨d.symbol, some (.classlike c)⟩ ∧
      c.instanceType = .named n ∧ g.NamesRecord n

end Graph

namespace Emission

def withView (em : Emission) (view : MemberView) : Emission := { em with view }

theorem declaration_views (em : Emission) (ns : Name) (isDefault : Bool) (symbol : Name) (type : Ty)
    (known : em.graph.resolve? symbol = some ⟨symbol, some type⟩) :
    em.graph.SameButNamed
      ((em.withView .direct).declaration ns isDefault ⟨symbol, type⟩)
      ((em.withView .throughNames).declaration ns isDefault ⟨symbol, type⟩) := by
  by_cases behind : ∃ c n, type = .classlike c ∧ c.instanceType = .named n ∧ em.graph.NamesRecord n
  · obtain ⟨c, n, rfl, named, fields⟩ := behind
    have same : ((em.withView .direct).declaration ns isDefault ⟨symbol, .classlike c⟩).kind =
        ((em.withView .throughNames).declaration ns isDefault ⟨symbol, .classlike c⟩).kind := by
      cases kind : c.kind <;> simp [declaration, kind]
    refine .inr ⟨?_, same, c, n, ?_, named, fields⟩
    · rw [declaration_symbol, declaration_symbol]
    · rw [declaration_symbol]
      exact known
  · have members (c : ClassType Ty) (classlike : type = .classlike c) :
        (em.withView .direct).instanceFields c = (em.withView .throughNames).instanceFields c := by
      have same := em.graph.membersOf?_views fun n named fields =>
        behind ⟨c, n, classlike, named, fields⟩
      exact congrArg (Option.getD · []) same
    have alike : (em.withView .direct).blockSettings = (em.withView .throughNames).blockSettings :=
      rfl
    exact .inl (declaration_congr alike ns isDefault ⟨symbol, type⟩ members fun _ => rfl)

end Emission

namespace Graph

variable (g : Graph) (config : Config) (given : List Name)

theorem sections_views :
    (∃ error, g.emit .direct config given = .error error ∧
      g.emit .throughNames config given = .error error) ∨
    ∃ sections sections',
      (Emission.ofGiven g .direct config given).sections = .ok sections ∧
      (Emission.ofGiven g .throughNames config given).sections = .ok sections' ∧
      sections.Forall₂ (Section.Related fun _ _ => g.SameButNamed) sections' := by
  rw [emit_eq_document, emit_eq_document]
  exact Emission.sections_related rfl rfl
    (Emission.declaration_views (.ofGiven g .direct config given))

variable {g config given}

theorem declares_views {view view' : MemberView} {s : Symbol}
    (sound : ∃ text, g.emit view config given = .ok text)
    (sound' : ∃ text, g.emit view' config given = .ok text)
    (declared : g.Declares view config given s) : g.Declares view' config given s := by
  obtain ⟨resolved, walked⟩ := declared
  refine ⟨resolved, ?_⟩
  rw [emitLog_walked _ _ _ _ ((g.emit_ok_iff view config given).mp sound)] at walked
  rwa [emitLog_walked _ _ _ _ ((g.emit_ok_iff view' config given).mp sound')]

variable (g config given)

/-- Either way of finding members gives the same error, or both give a document and these differ in
the classes and interfaces only that have their instance fields behind a name. The documents are the
same if no such class or interface is declared. -/
theorem views_interchangeable :
    ((∃ error, g.emit .direct config given = .error error ∧
        g.emit .throughNames config given = .error error) ∨
      ∃ sections sections' : List Section,
        g.emit .direct config given =
          .ok (Line.writeAll (sections.flatMap (Section.lines config))) ∧
        g.emit .throughNames config given =
          .ok (Line.writeAll (sections'.flatMap (Section.lines config))) ∧
        sections.Forall₂ (Section.Related fun _ _ => g.SameButNamed) sections') ∧
    ∀ view, (∀ s c n, g.Declares view config given s → s.type? = some (.classlike c) →
        c.instanceType = .named n → ¬ g.NamesRecord n) →
      g.emit .direct config given = g.emit .throughNames config given := by
  rcases g.sections_views config given with
    ⟨error, failed, failed'⟩ | ⟨sections, sections', found, found', related⟩
  · refine ⟨.inl ⟨error, failed, failed'⟩, fun view _ => ?_⟩
    rw [failed, failed']
  · have written := emit_of_sections found
    have written' := emit_of_sections found'
    refine ⟨.inr ⟨sections, sections', written, written', related⟩, fun view plain => ?_⟩
    have sound : ∃ text, g.emit view config given = .ok text := by
      cases view
      · exact ⟨_, written⟩
      · exact ⟨_, written'⟩
    apply emit_eq_of_related found found' rfl related
    rintro s member d inside d' (same | ⟨-, -, c, n, resolved, named, fields⟩)
    · exact same
    · have declared := declares_of_sections found member inside resolved
      have known := declares_views ⟨_, written⟩ sound declared
      exact absurd fields (plain _ c n known rfl named)

-- The class of the shapes has its instance fields behind a name.
example : shapes.emit .direct {} ["lib"] ≠ shapes.emit .throughNames {} ["lib"] := by decide

/-- A namespace whose classes and interfaces have instance types by names that lead to no
record: one that no symbol has, one without a type, a number, and a class with a named type of
its own. -/
def detours : Graph where
  symbols := .ofAscending [⟨"lib", some (.record [])⟩,
    ⟨"lib.Far", some (.classlike
      { name := "lib.Far", kind := .constructor, instanceType := .named "lib.Gone" })⟩,
    ⟨"lib.Hop", some (.classlike
      { name := "lib.Hop", kind := .interface, instanceType := .named "lib.Far" })⟩,
    ⟨"lib.Size", some (.primitive .number)⟩,
    ⟨"lib.Sized", some (.classlike
      { name := "lib.Sized", kind := .interface, instanceType := .named "lib.Size" })⟩,
    ⟨"lib.Void", none⟩,
    ⟨"lib.Voided", some (.classlike
      { name := "lib.Voided", kind := .constructor, instanceType := .named "lib.Void" })⟩]
    (by decide)

theorem detours_emit_views :
    (∀ n ∈ ["lib.Gone", "lib.Far", "lib.Size", "lib.Void"], ¬ detours.NamesRecord n) ∧
      detours.emit .direct {} ["lib"] = detours.emit .throughNames {} ["lib"] := by
  have named : ∀ n ∈ ["lib.Gone", "lib.Far", "lib.Size", "lib.Void"], ¬ detours.NamesRecord n := by
    decide
  refine ⟨named, (views_interchangeable detours {} ["lib"]).2 .throughNames ?_⟩
  rintro ⟨name, type?⟩ c n ⟨resolved, -⟩ typed instances
  obtain ⟨known, -⟩ := (detours.resolve?_eq_some_iff name _).mp resolved
  simp only [symbolList, detours, SymbolTable.values_ofAscending, List.mem_cons, List.not_mem_nil,
    Symbol.mk.injEq, or_false] at known
  rcases known with ⟨-, rfl⟩ | ⟨-, rfl⟩ | ⟨-, rfl⟩ | ⟨-, rfl⟩ | ⟨-, rfl⟩ | ⟨-, rfl⟩ | ⟨-, rfl⟩ <;>
    cases typed
  all_goals
    cases instances
    exact named _ (by decide)

end Graph

end Ambient
