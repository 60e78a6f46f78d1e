import Ambient.Proofs.Comparison
import Ambient.Proofs.Members

namespace Ambient

namespace InterfaceForm

variable (ns : Name) (name : String) (c : ClassType Ty)

def header : InterfaceForm → String
  | named => interfaceHeader ns name c
  | inline => inlineHeader ns name c

def terminator : InterfaceForm → String
  | named => ""
  | inline => ";"

def block (form : InterfaceForm) (members : List String) : Item :=
  .block (form.header ns name c) members form.terminator

end InterfaceForm

def Config.withForms (config : Config) (default namespaced : InterfaceForm) : Config :=
  { config with
    policy := { config.policy with
      defaultInterface := default
      namespacedInterface := namespaced } }

/-- One declaration in two forms. Of an interface the members and what follows its block are the
same, which is nothing or the variable with its statics. Any other declaration is the same. -/
inductive Declaration.Reformed (g : Graph) (form form' : InterfaceForm) (ns : Name) :
    Declaration → Declaration → Prop
  | same {d : Declaration} (other : d.kind ≠ .interfaceDecl) : Reformed g form form' ns d d
  | interface {symbol : Name} {c : ClassType Ty} {members : List String} {companion : List Item}
      (known : g.resolve? symbol = some ⟨symbol, some (.classlike c)⟩) (kind : c.kind = .interface)
      (statics : companion = [] ∨ ∃ entries,
        companion = [.block ("var " ++ symbol.lastSegment ++ ":") entries ";"]) :
      Reformed g form form' ns
        ⟨symbol, .interfaceDecl, form.block ns symbol.lastSegment c members :: companion⟩
        ⟨symbol, .interfaceDecl, form'.block ns symbol.lastSegment c members :: companion⟩

namespace Emission

variable (em : Emission)

def withForms (default namespaced : InterfaceForm) : Emission :=
  { em with config := em.config.withForms default namespaced }

@[simp] theorem withForms_graph (default namespaced : InterfaceForm) :
    (em.withForms default namespaced).graph = em.graph := rfl

theorem interfaceBlock_eq (ns : Name) (isDefault : Bool) (owner : Name) (c : ClassType Ty)
    (members : List String) :
    em.interfaceBlock ns isDefault owner c members =
      (em.config.policy.interfaceForm isDefault).block ns owner.lastSegment c members := by
  unfold interfaceBlock Policy.lookup?
  cases form : em.config.policy.interfaceForm isDefault <;> rfl

theorem companionItems_cases (ns owner : Name) (c : ClassType Ty) :
    em.companionItems ns owner c = [] ∨ ∃ entries,
      em.companionItems ns owner c = [.block ("var " ++ owner.lastSegment ++ ":") entries ";"] := by
  unfold companionItems
  split
  · exact .inl rfl
  · exact .inr ⟨_, rfl⟩

theorem declaration_reformed (default namespaced : InterfaceForm) (ns : Name) (isDefault : Bool)
    (symbol : Name) (type : Ty) (known : em.graph.resolve? symbol = some ⟨symbol, some type⟩) :
    Declaration.Reformed em.graph (em.config.policy.interfaceForm isDefault)
      ((em.withForms default namespaced).config.policy.interfaceForm isDefault) ns
      (em.declaration ns isDefault ⟨symbol, type⟩)
      ((em.withForms default namespaced).declaration ns isDefault ⟨symbol, type⟩) := by
  cases type with
  | classlike c =>
    cases kind : c.kind with
    | constructor =>
      simp only [declaration, kind]
      exact .same (by simp)
    | interface =>
      have companion := em.companionItems_cases ns symbol c
      simp only [declaration, kind, interfaceItems, interfaceBlock_eq]
      exact .interface known kind companion
  | primitive p =>
    cases p with
    | none =>
      cases target : em.graph.aliasTarget? symbol with
      | none =>
        simp only [declaration, withForms_graph, target]
        exact .same (by simp)
      | some t =>
        simp only [declaration, withForms_graph, target]
        exact .same (by simp)
    | _ => exact .same (by simp [declaration])
  | _ => exact .same (by simp [declaration])

end Emission

namespace Graph

variable (g : Graph) (view : MemberView) (config : Config) (given : List Name)
  (default namespaced : InterfaceForm)

theorem sections_forms :
    (∃ error, g.emit view config given = .error error ∧
      g.emit view (config.withForms default namespaced) given = .error error) ∨
    ∃ sections sections',
      (Emission.ofGiven g view config given).sections = .ok sections ∧
      (Emission.ofGiven g view (config.withForms default namespaced) given).sections =
        .ok sections' ∧
      sections.Forall₂ (Section.Related fun ns isDefault =>
        Declaration.Reformed g (config.policy.interfaceForm isDefault)
          ((config.withForms default namespaced).policy.interfaceForm isDefault) ns) sections' := by
  rw [emit_eq_document, emit_eq_document]
  exact Emission.sections_related rfl rfl
    ((Emission.ofGiven g view config given).declaration_reformed default namespaced)

/-- With other forms of interfaces a program gives the same error, or it gives a document with
the same sections and declarations, of which only the interfaces differ, and these in the header
and the terminator of their blocks. The documents are the same if no interface is declared. -/
theorem forms_confined :
    ((∃ error, g.emit view config given = .error error ∧
        g.emit view (config.withForms default namespaced) given = .error error) ∨
      ∃ sections sections' : List Section,
        g.emit view config given = .ok (Line.writeAll (sections.flatMap (Section.lines config))) ∧
        g.emit view (config.withForms default namespaced) given =
          .ok (Line.writeAll (sections'.flatMap (Section.lines config))) ∧
        sections.Forall₂ (Section.Related fun ns isDefault =>
          Declaration.Reformed g (config.policy.interfaceForm isDefault)
            ((config.withForms default namespaced).policy.interfaceForm isDefault) ns) sections') ∧
    ((∀ s c, g.Declares view config given s → s.type? = some (.classlike c) →
        c.kind ≠ .interface) →
      g.emit view config given = g.emit view (config.withForms default namespaced) given) := by
  rcases g.sections_forms view config given default namespaced with
    ⟨error, failed, failed'⟩ | ⟨sections, sections', found, found', related⟩
  · refine ⟨.inl ⟨error, failed, failed'⟩, fun _ => ?_⟩
    rw [failed, failed']
  · have written := emit_of_sections found
    have written' := emit_of_sections found'
    refine ⟨.inr ⟨sections, sections', written, written', related⟩, fun plain => ?_⟩
    apply emit_eq_of_related found found' rfl related
    rintro s member d inside d' alike
    cases alike with
    | same => rfl
    | @interface symbol c members companion known kind =>
      have declared := declares_of_sections found member inside known
      exact absurd kind (plain _ c declared rfl)

-- The interface of the panels is written in another form.
example : panels.emit .throughNames {} ["ui.Panel"] ≠
    panels.emit .throughNames (Config.withForms {} .inline .named) ["ui.Panel"] := by
  decide

theorem library_forms_confined :
    (∀ s ∈ library.symbolList, ∀ c, s.type? = some (.classlike c) → c.kind ≠ .interface) ∧
      library.emit .direct {} ["lib.Util", "lib"] =
        library.emit .direct (Config.withForms {} .inline .inline) ["lib.Util", "lib"] := by
  have plain : ∀ s ∈ library.symbolList, ∀ c, s.type? = some (.classlike c) →
      c.kind ≠ .interface := by
    simp only [symbolList, library, SymbolTable.values_ofAscending, List.forall_mem_cons]
    simp [ClassType.empty]
  refine ⟨plain, (forms_confined library .direct {} ["lib.Util", "lib"] .inline .inline).2 ?_⟩
  intro s c declared typed
  exact plain s ((library.resolve?_eq_some_iff s.name s).mp declared.1).1 c typed

end Graph

end Ambient
