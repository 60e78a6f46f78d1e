import Ambient.Proofs.Loaded
import Ambient.Proofs.Walk
import Mathlib.Data.List.Forall2

/-!
Conservation of members. Each entry of the three tables of a class is accounted for once and in the
order of its table: it is dropped and that is logged, or it gives one line. The lines make the body
and the log tells of all others, so neither loses a member or has one twice.
-/
namespace Ambient

/-- What becomes of a member: it is dropped, a comment stands in its place, or it is written. The
first two are logged. -/
inductive Account where
  | dropped (event : Event)
  | noted (comment : String) (event : Event)
  | written (line : String)

namespace Account

def line? : Account → Option String
  | dropped _ => none
  | noted comment _ => some comment
  | written line => some line

def event? : Account → Option Event
  | dropped event => some event
  | noted _ event => some event
  | written _ => none

end Account

structure Accounting where
  fields : List Account
  methods : List Account
  statics : List Account

namespace Accounting

def instanceLines (a : Accounting) : List String :=
  a.fields.filterMap Account.line? ++ a.methods.filterMap Account.line?

def staticLines (a : Accounting) : List String := a.statics.filterMap Account.line?

def events (a : Accounting) : List Event :=
  a.fields.filterMap Account.event? ++ a.methods.filterMap Account.event? ++
    a.statics.filterMap Account.event?

end Accounting

def ClassKind.declKind : ClassKind → DeclKind
  | constructor => .classDecl
  | interface => .interfaceDecl

/-- A static as it is written, inside a class or on the variable beside an interface. -/
def ClassKind.staticText (ns : Name) (key : String) (type : Ty) : ClassKind → String
  | constructor => "static " ++ memberSignature ns key type
  | interface => Text.propertyKey key ++ ": " ++ type.render ns ++ ","

theorem Config.isExcluded_iff (c : Config) (key : String) :
    c.isExcluded key = true ↔ key = "prototype" ∨ key ∈ c.excludedMembers := by
  simp [isExcluded]

namespace Emission

variable (em : Emission) (owner : Name) (slot : Slot)

structure Stays (key : String) : Prop where
  notExcluded : ¬ (key = "prototype" ∨ key ∈ em.config.excludedMembers)
  notExported : slot.path owner key ∉ em.exports.names

inductive Accounts (write : String → Ty → String) : String × Ty → Account → Prop
  | excluded {key : String} {type : Ty}
      (excluded : key = "prototype" ∨ key ∈ em.config.excludedMembers) :
      Accounts write (key, type) (.dropped (.excludedMember owner key))
  | exportedSeparately {key : String} {type : Ty}
      (notExcluded : ¬ (key = "prototype" ∨ key ∈ em.config.excludedMembers))
      (exported : slot.path owner key ∈ em.exports.names) :
      Accounts write (key, type) (.dropped (.memberExportedSeparately owner key slot))
  | staticEnum {key : String} {type : Ty} (stays : em.Stays owner slot key)
      (enum : slot = .static ∧ type.isEnum = true) :
      Accounts write (key, type)
        (.noted ("// skipped static enum " ++ key) (.skippingStaticEnum owner key))
  | signature {key : String} {type : Ty} (stays : em.Stays owner slot key)
      (plain : ¬ (slot = .static ∧ type.isEnum = true)) :
      Accounts write (key, type) (.written (write key type))

theorem memberFate_eq_kept_iff (key : String) :
    em.memberFate owner slot key = .kept ↔ em.Stays owner slot key := by
  have excluded := em.config.isExcluded_iff key
  have exported := em.exports.contains_iff (slot.path owner key)
  unfold memberFate
  split
  · next out =>
    exact ⟨nofun, fun stays => absurd (excluded.mp out) stays.notExcluded⟩
  · next kept =>
    split
    · next apart =>
      exact ⟨nofun, fun stays => absurd (exported.mp apart) stays.notExported⟩
    · next own =>
      exact ⟨fun _ => ⟨mt excluded.mpr kept, mt exported.mpr own⟩, fun _ => rfl⟩

def account (write : String → Ty → String) (m : String × Ty) : Account :=
  match em.memberFate owner slot m.1 with
  | .excluded => .dropped (.excludedMember owner m.1)
  | .exportedSeparately => .dropped (.memberExportedSeparately owner m.1 slot)
  | .kept =>
    if slot = .static ∧ m.2.isEnum then
      .noted (staticEnumComment m.1) (.skippingStaticEnum owner m.1)
    else .written (write m.1 m.2)

theorem accounts_account (write : String → Ty → String) (m : String × Ty) :
    em.Accounts owner slot write m (em.account owner slot write m) := by
  obtain ⟨key, type⟩ := m
  have excluded := em.config.isExcluded_iff key
  have exported := em.exports.contains_iff (slot.path owner key)
  unfold account
  by_cases out : key = "prototype" ∨ key ∈ em.config.excludedMembers
  · have fate : em.memberFate owner slot key = .excluded := if_pos (excluded.mpr out)
    rw [fate]
    exact .excluded out
  · by_cases apart : slot.path owner key ∈ em.exports.names
    · have fate : em.memberFate owner slot key = .exportedSeparately := by
        rw [memberFate, if_neg (mt excluded.mp out), if_pos (exported.mpr apart)]
      rw [fate]
      exact .exportedSeparately out apart
    · have stays : em.Stays owner slot key := ⟨out, apart⟩
      rw [(em.memberFate_eq_kept_iff owner slot key).mpr stays]
      by_cases enum : slot = .static ∧ type.isEnum = true
      · simp only [if_pos enum]
        exact .staticEnum stays enum
      · simp only [if_neg enum]
        exact .signature stays enum

theorem account_event? (write : String → Ty → String) (m : String × Ty) :
    (em.account owner slot write m).event? = em.memberEvent? owner slot m := by
  unfold account memberEvent?
  cases em.memberFate owner slot m.1 with
  | excluded => rfl
  | exportedSeparately => rfl
  | kept =>
    by_cases enum : slot = .static ∧ m.2.isEnum = true
    · simp only [if_pos enum, Account.event?]
    · simp only [if_neg enum, Account.event?]

theorem account_line? (write : String → Ty → String) (m : String × Ty) :
    (em.account owner slot write m).line? =
      if em.memberFate owner slot m.1 = .kept then
        some (if slot = .static ∧ m.2.isEnum then staticEnumComment m.1 else write m.1 m.2)
      else none := by
  unfold account
  cases em.memberFate owner slot m.1 with
  | excluded => rfl
  | exportedSeparately => rfl
  | kept =>
    by_cases enum : slot = .static ∧ m.2.isEnum = true
    · simp only [if_pos enum, Account.line?, reduceIte]
    · simp only [if_neg enum, Account.line?, reduceIte]

def accounts (write : String → Ty → String) (table : Properties) : List Account :=
  table.map (em.account owner slot write)

theorem forall₂_accounts (write : String → Ty → String) (table : Properties) :
    table.Forall₂ (em.Accounts owner slot write) (em.accounts owner slot write table) :=
  List.forall₂_map_right_iff.mpr
    (List.forall₂_same.mpr fun m _ => em.accounts_account owner slot write m)

theorem accounts_events (write : String → Ty → String) (table : Properties) :
    (em.accounts owner slot write table).filterMap Account.event? =
      table.filterMap (em.memberEvent? owner slot) := by
  rw [accounts, List.filterMap_map]
  exact List.filterMap_congr fun m _ => em.account_event? owner slot write m

theorem accounts_lines (write : String → Ty → String) (table : Properties) :
    (em.accounts owner slot write table).filterMap Account.line? =
      (em.keptMembers owner slot table).map fun m =>
        if slot = .static ∧ m.2.isEnum then staticEnumComment m.1 else write m.1 m.2 := by
  rw [accounts, List.filterMap_map, ← filterMap_kept]
  exact List.filterMap_congr fun m _ => em.account_line? owner slot write m

/-- Accounts for the members of a class: one for each entry of a table, in the table's order. -/
structure Settles (ns : Name) (c : ClassType Ty) (a : Accounting) : Prop where
  fields : (em.instanceFields c).Forall₂
    (em.Accounts owner .instanceField (memberSignature ns)) a.fields
  methods : c.prototype.Forall₂ (em.Accounts owner .prototype (memberSignature ns)) a.methods
  statics : c.statics.Forall₂
    (em.Accounts owner .static fun key type => c.kind.staticText ns key type) a.statics

/-- The line of a member on the instance side: a method with its signature, anything else with its
type. -/
inductive MemberLine (ns : Name) : String × Ty → String → Prop
  | method (key : String) (f : FunctionType Ty) :
      MemberLine ns (key, .function f) (Text.propertyKey key ++ Ty.renderSignature ns f ++ ";")
  | field (key : String) {type : Ty} (value : ∀ f, type ≠ .function f) :
      MemberLine ns (key, type) (Text.propertyKey key ++ ": " ++ type.render ns ++ ";")

theorem memberLine_memberSignature (ns : Name) (m : String × Ty) :
    MemberLine ns m (memberSignature ns m.1 m.2) := by
  obtain ⟨key, type⟩ := m
  cases type with
  | function f => exact .method key f
  | _ => exact .field key nofun

theorem Settles.memberLines {ns : Name} {c : ClassType Ty} {a : Accounting}
    (settles : em.Settles owner ns c a) :
    (em.instanceFields c).Forall₂ (fun m b => ∀ line, b.line? = some line → MemberLine ns m line)
        a.fields ∧
      c.prototype.Forall₂ (fun m b => ∀ line, b.line? = some line → MemberLine ns m line)
        a.methods := by
  have spelled (slot : Slot) (dynamic : slot ≠ .static) (m : String × Ty) (b : Account)
      (accounts : em.Accounts owner slot (memberSignature ns) m b) (line : String)
      (kept : b.line? = some line) : MemberLine ns m line := by
    cases accounts with
    | excluded | exportedSeparately => contradiction
    | staticEnum stays enum => exact absurd enum.1 dynamic
    | signature stays plain =>
      cases kept
      exact memberLine_memberSignature ns _
  exact ⟨settles.fields.imp (spelled .instanceField nofun),
    settles.methods.imp (spelled .prototype nofun)⟩

def accounting (ns : Name) (c : ClassType Ty) : Accounting where
  fields := em.accounts owner .instanceField (memberSignature ns) (em.instanceFields c)
  methods := em.accounts owner .prototype (memberSignature ns) c.prototype
  statics := em.accounts owner .static (fun key type => c.kind.staticText ns key type) c.statics

variable (ns : Name) (c : ClassType Ty)

theorem settles_accounting : em.Settles owner ns c (em.accounting owner ns c) where
  fields := em.forall₂_accounts owner .instanceField _ _
  methods := em.forall₂_accounts owner .prototype _ _
  statics := em.forall₂_accounts owner .static _ _

theorem accounting_events : (em.accounting owner ns c).events = em.memberEvents owner c := by
  simp only [Accounting.events, accounting, accounts_events, memberEvents]

theorem accounting_instanceLines :
    (em.accounting owner ns c).instanceLines = em.instanceLines ns owner c := by
  simp [Accounting.instanceLines, accounting, accounts_lines, instanceLines]

theorem accounting_staticLines :
    (em.accounting owner ns c).staticLines =
      match c.kind with
      | .constructor => em.staticLines (staticSignature ns) owner c
      | .interface => em.staticLines (companionEntry ns) owner c := by
  simp only [Accounting.staticLines, accounting, accounts_lines, true_and]
  cases c.kind with
  | constructor => rfl
  | interface => rfl

theorem constructorLines_eq (params : List (Param Ty)) :
    constructorLines ns params =
      if params.isEmpty then [] else ["constructor(" ++ Ty.parameterList ns params ++ ");"] := by
  cases params with
  | nil => rfl
  | cons param params => rfl

/-- What accounts make a class or an interface of. The lines of a class stand in one block after its
constructor, which is written if it has parameters; those for the statics of an interface stand on a
variable beside it, which is written if there are any. -/
inductive Body (a : Accounting) : List Item → Prop
  | ofClass (kind : c.kind = .constructor) : Body a [.block (classHeader ns owner.lastSegment c)
      ((if c.params.isEmpty then [] else ["constructor(" ++ Ty.parameterList ns c.params ++ ");"]) ++
        a.instanceLines ++ a.staticLines) ""]
  | ofInterface (kind : c.kind = .interface) (header terminator : String) : Body a
      (.block header a.instanceLines terminator ::
        if a.staticLines.isEmpty then []
        else [.block ("var " ++ owner.lastSegment ++ ":") a.staticLines ";"])

theorem companionItems_eq (interface : c.kind = .interface) :
    em.companionItems ns owner c =
      if (em.accounting owner ns c).staticLines.isEmpty then []
      else [.block ("var " ++ owner.lastSegment ++ ":")
        (em.accounting owner ns c).staticLines ";"] := by
  rw [companionItems, accounting_staticLines, interface]
  cases em.staticLines (companionEntry ns) owner c with
  | nil => rfl
  | cons line lines => rfl

theorem body_accounting (isDefault : Bool) :
    Body owner ns c (em.accounting owner ns c)
      (em.declaration ns isDefault ⟨owner, .classlike c⟩).items := by
  unfold declaration
  -- the statics are written in another place and in another form by the two flavours
  cases kind : c.kind with
  | constructor =>
    have statics := em.accounting_staticLines owner ns c
    rw [kind] at statics
    simp only [kind, classItems, classBody, constructorLines_eq, ← accounting_instanceLines,
      ← statics]
    exact .ofClass kind
  | interface =>
    simp only [kind, interfaceItems, em.companionItems_eq owner ns c kind,
      ← accounting_instanceLines, interfaceBlock]
    split
    · exact .ofInterface kind _ _
    · exact .ofInterface kind _ _

/-- The walk of a class or an interface accounts for all its members: it logs what the accounts log
and writes the body that their lines make, unless the instances are no objects and it fails before
the first member. A loaded interface has no parameters, which its body would not show. -/
theorem members_accounted (isDefault : Bool) :
    (c.instanceType.isObject = true → ∃ a items,
      em.Settles owner ns c a ∧ Body owner ns c a items ∧
        (em.walk ns isDefault ⟨owner, some (.classlike c)⟩).Performs ()
          (.walk ns isDefault owner :: .emittingDeclaration owner c.kind.declKind :: a.events)
          (Item.putAll items)) ∧
    (c.instanceType.isObject = false →
      (em.walk ns isDefault ⟨owner, some (.classlike c)⟩).Fails
        (.thisNotObject owner (c.instanceType.render ns))
        [.walk ns isDefault owner, .emittingDeclaration owner c.kind.declKind]) ∧
    ∀ p : Dump.ProgramSpec, p.toGraph = .ok em.graph →
      ⟨owner, some (.classlike c)⟩ ∈ em.graph.symbolList → c.kind = .interface → c.params = [] := by
  have does := em.walk_does ns isDefault owner (.classlike c)
  have kind : (em.declaration ns isDefault ⟨owner, .classlike c⟩).kind = c.kind.declKind := by
    cases flavour : c.kind <;> simp [declaration, flavour, ClassKind.declKind]
  refine ⟨?_, ?_, ?_⟩
  · intro object
    refine ⟨_, _, em.settles_accounting owner ns c, em.body_accounting owner ns c isDefault, ?_⟩
    simpa [Step.Does, declarationError?, declarationEvents, object, kind,
      accounting_events] using does
  · intro object
    simpa [Step.Does, declarationError?, declarationEvents, object, kind] using does
  · intro p loaded member interface
    exact (Dump.ProgramSpec.fromClass_of_mem_symbolList loaded member rfl).params interface

end Emission

def Dump.panel : Dump.ProgramSpec where
  exports := ["ui.Panel", "ui.Panel.prototype.size"]
  symbols := [⟨"ui.Panel", some (.function
    { interface := true
      this? := some (.record [("size", .primitive .number), ("constructor", .named "ui.Panel")])
      prototype := [("draw", .function {})]
      statics := [("Kind", .enumeration "ui.Panel.Kind" (.primitive .number) []),
        ("count", .primitive .number)] })⟩,
    ⟨"ui.Panel.prototype.size", some (.primitive .number)⟩]

def panelType : ClassType Ty where
  name := "ui.Panel"
  kind := .interface
  instanceType := .record [("size", .primitive .number), ("constructor", .named "ui.Panel")]
  prototype := [("draw", .function {})]
  statics := [("Kind", .enumeration ⟨"ui.Panel.Kind", .primitive .number, []⟩),
    ("count", .primitive .number)]

def Graph.panels : Graph where
  symbols := .ofAscending [⟨"ui.Panel", some (.classlike panelType)⟩,
    ⟨"ui.Panel.prototype.size", some (.primitive .number)⟩] (by decide)
  exports := ⟨[("ui.Panel", ()), ("ui.Panel.prototype.size", ())], by decide⟩

def panelEmission : Emission :=
  .ofGiven .panels .throughNames {} ["ui.Panel", "ui.Panel.prototype.size"]

theorem panel_members_accounted :
    panelType.instanceType.isObject = true ∧ Dump.panel.toGraph = .ok .panels ∧
      panelType.params = [] ∧ ∃ a items,
        panelEmission.Settles "ui.Panel" "ui" panelType a ∧
          Emission.Body "ui.Panel" "ui" panelType a items ∧
          (panelEmission.walk "ui" true ⟨"ui.Panel", some (.classlike panelType)⟩).Performs ()
            (.walk "ui" true "ui.Panel" :: .emittingDeclaration "ui.Panel" .interfaceDecl :: a.events)
            (Item.putAll items) := by
  have object : panelType.instanceType.isObject = true := by decide
  have loaded : Dump.panel.toGraph = .ok .panels := rfl
  have member : (⟨"ui.Panel", some (.classlike panelType)⟩ : Symbol) ∈ Graph.panels.symbolList :=
    List.mem_cons_self
  obtain ⟨walks, -, bare⟩ := panelEmission.members_accounted "ui.Panel" "ui" panelType true
  exact ⟨object, loaded, bare Dump.panel loaded member rfl, walks object⟩

example : (panelEmission.accounting "ui.Panel" "ui" panelType).events =
    [.memberExportedSeparately "ui.Panel" "size" .instanceField,
      .excludedMember "ui.Panel" "constructor", .skippingStaticEnum "ui.Panel" "Kind"] ∧
    (panelEmission.accounting "ui.Panel" "ui" panelType).staticLines =
      ["// skipped static enum Kind", "count: number,"] := by
  decide

end Ambient
