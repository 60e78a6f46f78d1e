import Ambient.Proofs.Blocks

namespace Ambient

structure BlockSettings where
  internalRoot : Name
  excludedMembers : List String
  defaultInterface : InterfaceForm
  namespacedInterface : InterfaceForm
  /-- The exports with blocks of their own. -/
  exports : NameSet

def Config.emittedSet (c : Config) (given : List Name) : NameSet := .ofList (given.filter c.emits)

theorem Config.emittedSet_congr {config config' : Config} {given given' : List Name}
    (same : ∀ e, e ∈ given ∧ config.emits e = true ↔ e ∈ given' ∧ config'.emits e = true) :
    config.emittedSet given = config'.emittedSet given' :=
  NameSet.eq_of_mem_names_iff fun e =>
    (config.mem_emitted_iff given e).trans
      ((same e).trans (config'.mem_emitted_iff given' e).symm)

def Config.blockSettings (c : Config) (exports : NameSet) : BlockSettings where
  internalRoot := c.internalRoot
  excludedMembers := c.excludedMembers
  defaultInterface := c.policy.defaultInterface
  namespacedInterface := c.policy.namespacedInterface
  exports := exports

namespace Emission

variable {em em' : Emission}

def blockSettings (em : Emission) : BlockSettings := em.config.blockSettings em.exports

theorem exports_congr (same : em.blockSettings = em'.blockSettings) : em.exports = em'.exports :=
  congrArg BlockSettings.exports same

theorem namespaceHeader_congr (same : em.blockSettings = em'.blockSettings) :
    em.config.namespaceHeader = em'.config.namespaceHeader := by
  have root : em.config.internalRoot = em'.config.internalRoot :=
    congrArg BlockSettings.internalRoot same
  funext ns
  unfold Config.namespaceHeader
  rw [root]

theorem keptMembers_congr (same : em.blockSettings = em'.blockSettings) :
    em.keptMembers = em'.keptMembers := by
  have excluded : em.config.excludedMembers = em'.config.excludedMembers :=
    congrArg BlockSettings.excludedMembers same
  funext owner slot table
  unfold keptMembers memberFate Config.isExcluded
  rw [excluded, exports_congr same]

theorem interfaceForm_congr (same : em.blockSettings = em'.blockSettings) :
    em.config.policy.lookup? = em'.config.policy.lookup? := by
  have default : em.config.policy.defaultInterface = em'.config.policy.defaultInterface :=
    congrArg BlockSettings.defaultInterface same
  have namespaced : em.config.policy.namespacedInterface = em'.config.policy.namespacedInterface :=
    congrArg BlockSettings.namespacedInterface same
  funext isDefault kind
  unfold Policy.lookup? Policy.interfaceForm
  rw [default, namespaced]

theorem declaration_congr (same : em.blockSettings = em'.blockSettings) (ns : Name)
    (isDefault : Bool) (d : Declared)
    (fields : ∀ c, d.type = .classlike c → em.instanceFields c = em'.instanceFields c)
    (target : d.type = .primitive .none →
      em.graph.aliasTarget? d.symbol = em'.graph.aliasTarget? d.symbol) :
    em.declaration ns isDefault d = em'.declaration ns isDefault d := by
  obtain ⟨symbol, type⟩ := d
  have kept := keptMembers_congr same
  cases type with
  | classlike c =>
    have known := fields c rfl
    have form := interfaceForm_congr same
    simp only [declaration, classItems, classBody, interfaceItems, interfaceBlock, companionItems,
      instanceLines, staticLines, kept, known, form]
  | primitive p =>
    cases p with
    | none =>
      have read := target rfl
      simp only [declaration, read]
    | _ => rfl
  | _ => rfl

theorem section?_congr {e : Name} (placed : em.graph.place e = em'.graph.place e)
    (declared : ∀ p, em.graph.place e = .ok p → em.declared p = em'.declared p)
    (alike : ∀ p, em.graph.place e = .ok p → ∀ d ∈ em.declared p,
      em.declaration p.namespaceName p.isDefault d =
        em'.declaration p.namespaceName p.isDefault d) :
    em.section? e = em'.section? e := by
  rw [section?_eq, section?_eq, ← placed]
  cases found : em.graph.place e with
  | error error => rfl
  | ok p =>
    have symbols := declared p found
    have sections : em.sectionOf p = em'.sectionOf p := by
      unfold sectionOf
      rw [← symbols, List.map_congr_left (alike p found)]
    simp only [sectionError?, symbols, sections]

theorem sections_congr (exports : em.exports = em'.exports)
    (each : ∀ e ∈ em.exports.names, em.section? e = em'.section? e) :
    em.sections = em'.sections := by
  unfold sections
  rw [← exports]
  generalize em.exports.names = names at each ⊢
  induction names with
  | nil => rfl
  | cons e names ih =>
    obtain ⟨first, rest⟩ := List.forall_mem_cons.mp each
    rw [List.mapM_cons, List.mapM_cons, first, ih rest]

end Emission

end Ambient
