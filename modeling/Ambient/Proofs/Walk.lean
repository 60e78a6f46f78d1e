import Ambient.Emission.Walk
import Ambient.Proofs.Step

namespace Ambient.Emission

open Step

variable (em : Emission)

def fateEvents (owner : Name) (slot : Slot) (key : String) : List Event :=
  match em.memberFate owner slot key with
  | .excluded => [.excludedMember owner key]
  | .exportedSeparately => [.memberExportedSeparately owner key slot]
  | .kept => []

theorem keepsMember_performs (owner : Name) (slot : Slot) (key : String) :
    (em.keepsMember owner slot key).Performs (em.memberFate owner slot key = .kept)
      (em.fateEvents owner slot key) id := by
  unfold keepsMember fateEvents memberFate
  split
  · exact (performs_log _).bind (performs_pure false)
  · split
    · exact (performs_log _).bind (performs_pure false)
    · exact performs_pure true

theorem keepsMember_bind {α : Type} {owner : Name} {slot : Slot} {key : String}
    {k : Bool → Step (Option α)} {a : α} {more : List Event}
    (kept : em.memberFate owner slot key = .kept → (k true).Performs (some a) more id)
    (dropped : k false = pure none) :
    (em.keepsMember owner slot key >>= k).Performs
      (if em.memberFate owner slot key = .kept then some a else none)
      (em.fateEvents owner slot key ++
        if em.memberFate owner slot key = .kept then more else []) id := by
  have first := em.keepsMember_performs owner slot key
  by_cases fate : em.memberFate owner slot key = .kept
  · rw [decide_eq_true fate] at first
    rw [if_pos fate, if_pos fate]
    exact first.bind (kept fate)
  · rw [decide_eq_false fate] at first
    rw [if_neg fate, if_neg fate]
    exact first.bind (dropped ▸ performs_pure none)

theorem memberLine_performs (ns owner : Name) (slot : Slot) (inside : slot ≠ .static)
    (m : String × Ty) :
    (em.memberLine? ns owner slot m).Performs
      (if em.memberFate owner slot m.1 = .kept then some (memberSignature ns m.1 m.2) else none)
      (em.memberEvent? owner slot m).toList id := by
  have events : (em.memberEvent? owner slot m).toList =
      em.fateEvents owner slot m.1 ++
        if em.memberFate owner slot m.1 = .kept then [] else [] := by
    unfold memberEvent? fateEvents
    split <;> simp_all
  rw [events]
  exact em.keepsMember_bind (fun _ => performs_pure _) rfl

theorem staticLine_performs (write : String → Ty → String) (owner : Name) (m : String × Ty) :
    (em.staticLine? write owner m).Performs
      (if em.memberFate owner .static m.1 = .kept then
        some (if m.2.isEnum then staticEnumComment m.1 else write m.1 m.2) else none)
      (em.memberEvent? owner .static m).toList id := by
  have events : (em.memberEvent? owner .static m).toList =
      em.fateEvents owner .static m.1 ++
        if em.memberFate owner .static m.1 = .kept then
          if m.2.isEnum then [.skippingStaticEnum owner m.1] else []
        else [] := by
    unfold memberEvent? fateEvents
    split
    · simp_all
    · simp_all
    · by_cases enum : m.2.isEnum <;> simp_all
  rw [events]
  refine em.keepsMember_bind (fun _ => ?_) rfl
  rw [if_pos rfl]
  cases m.2.isEnum with
  | true => exact (performs_log _).bind (performs_pure _)
  | false => exact performs_pure _

theorem filterMap_kept {α : Type} (owner : Name) (slot : Slot) (table : Properties)
    (line : String × Ty → α) :
    table.filterMap (fun m =>
      if em.memberFate owner slot m.1 = .kept then some (line m) else none) =
      (em.keptMembers owner slot table).map line := by
  induction table with
  | nil => rfl
  | cons m table ih =>
    by_cases kept : em.memberFate owner slot m.1 = .kept
    · simp_all [keptMembers]
    · simp_all [keptMembers]

theorem memberLines_perform (ns owner : Name) (slot : Slot) (inside : slot ≠ .static)
    (table : Properties) :
    (table.filterMapM (em.memberLine? ns owner slot)).Performs
      ((em.keptMembers owner slot table).map fun m => memberSignature ns m.1 m.2)
      (table.filterMap (em.memberEvent? owner slot)) id := by
  rw [← filterMap_kept]
  exact performs_filterMapM fun m _ => em.memberLine_performs ns owner slot inside m

theorem staticLines_perform (write : String → Ty → String) (owner : Name) (table : Properties) :
    (table.filterMapM (em.staticLine? write owner)).Performs
      ((em.keptMembers owner .static table).map fun m =>
        if m.2.isEnum then staticEnumComment m.1 else write m.1 m.2)
      (table.filterMap (em.memberEvent? owner .static)) id := by
  rw [← filterMap_kept]
  exact performs_filterMapM fun m _ => em.staticLine_performs write owner m

theorem gatherInstance_performs (ns owner : Name) (c : ClassType Ty)
    (object : c.instanceType.isObject = true) :
    (em.gatherInstance ns owner c).Performs (em.instanceLines ns owner c)
      ((em.instanceFields c).filterMap (em.memberEvent? owner .instanceField) ++
        c.prototype.filterMap (em.memberEvent? owner .prototype)) id := by
  have fields := em.memberLines_perform ns owner .instanceField (by decide) (em.instanceFields c)
  have methods := em.memberLines_perform ns owner .prototype (by decide) c.prototype
  unfold gatherInstance instanceLines
  rw [if_pos object, List.map_append]
  exact fields.bind (methods.map _)

theorem gatherInstance_fails (ns owner : Name) (c : ClassType Ty)
    (object : c.instanceType.isObject = false) :
    (em.gatherInstance ns owner c).Fails (.thisNotObject owner (c.instanceType.render ns)) [] := by
  unfold gatherInstance
  rw [object]
  exact fails_throw _

theorem declarePlain_performs (symbol : Name) (kind : DeclKind) (items : List Item) :
    (declarePlain symbol kind items).Performs () [.emittingDeclaration symbol kind]
      (Item.putAll items) := by
  have written := performs_forM fun item (_ : item ∈ items) => performs_write item
  exact (performs_log _).seq written

def classEvents (owner : Name) (kind : DeclKind) (c : ClassType Ty) : List Event :=
  .emittingDeclaration owner kind ::
    if c.instanceType.isObject then em.memberEvents owner c else []

theorem declareClass_does (ns owner : Name) (c : ClassType Ty) :
    (em.declareClass ns owner c).Does (declarationError? ns ⟨owner, .classlike c⟩)
      (em.classEvents owner .classDecl c) (Item.putAll (em.classItems ns owner c)) := by
  have logged := performs_log (.emittingDeclaration owner .classDecl)
  cases object : c.instanceType.isObject with
  | false =>
    have failed : (em.declareClass ns owner c).Fails _ _ :=
      logged.seq_fails (em.gatherInstance_fails ns owner c object).bind
    simpa [Does, declarationError?, classEvents, object] using failed
  | true =>
    have members := em.gatherInstance_performs ns owner c object
    have statics := em.staticLines_perform
      (fun key type => "static " ++ memberSignature ns key type) owner c.statics
    have done : (em.declareClass ns owner c).Performs () _ _ :=
      logged.seq (members.bind (statics.bind (performs_write _)))
    simpa [Does, declarationError?, classEvents, memberEvents, object, classItems, classBody,
      staticLines, staticSignature, Item.putAll_cons, Item.putAll_nil] using done

theorem declareCompanion_performs (ns owner : Name) (c : ClassType Ty) :
    (em.declareCompanion ns owner c).Performs ()
      (c.statics.filterMap (em.memberEvent? owner .static))
      (Item.putAll (em.companionItems ns owner c)) := by
  have statics := em.staticLines_perform
    (fun key type => Text.propertyKey key ++ ": " ++ type.render ns ++ ",") owner c.statics
  unfold companionItems staticLines companionEntry
  generalize (em.keptMembers owner .static c.statics).map _ = lines at statics ⊢
  cases lines with
  | nil =>
    have done : (em.declareCompanion ns owner c).Performs () _ _ := statics.bind (performs_pure ())
    simpa [Item.putAll_nil] using done
  | cons text lines =>
    have done : (em.declareCompanion ns owner c).Performs () _ _ := statics.bind (performs_write _)
    simpa [Item.putAll_cons, Item.putAll_nil] using done

theorem declareInterface_does (ns : Name) (isDefault : Bool) (owner : Name) (c : ClassType Ty) :
    (em.declareInterface ns isDefault owner c).Does (declarationError? ns ⟨owner, .classlike c⟩)
      (em.classEvents owner .interfaceDecl c)
      (Item.putAll (em.interfaceItems ns isDefault owner c)) := by
  have logged := performs_log (.emittingDeclaration owner .interfaceDecl)
  cases object : c.instanceType.isObject with
  | false =>
    have failed : (em.declareInterface ns isDefault owner c).Fails _ _ :=
      logged.seq_fails (em.gatherInstance_fails ns owner c object).bind
    simpa [Does, declarationError?, classEvents, object] using failed
  | true =>
    have members := em.gatherInstance_performs ns owner c object
    have companion := em.declareCompanion_performs ns owner c
    have done : (em.declareInterface ns isDefault owner c).Performs () _ _ :=
      logged.seq (members.bind ((performs_write _).seq companion))
    simpa [Does, declarationError?, classEvents, memberEvents, object, interfaceItems,
      Item.putAll_cons] using done

theorem walk_does (ns : Name) (isDefault : Bool) (symbol : Name) (type : Ty) :
    (em.walk ns isDefault ⟨symbol, some type⟩).Does (declarationError? ns ⟨symbol, type⟩)
      (em.declarationEvents ns isDefault ⟨symbol, type⟩)
      (Item.putAll (em.declaration ns isDefault ⟨symbol, type⟩).items) := by
  have entered := performs_log (.walk ns isDefault symbol)
  have plain (kind : DeclKind) (items : List Item) :=
    entered.seq (declarePlain_performs symbol kind items)
  cases type with
  | function f => exact plain .functionDecl _
  | enumeration e => exact plain .enumDecl _
  | classlike c =>
    cases kind : c.kind with
    | constructor =>
      have done := entered.seq_does (em.declareClass_does ns symbol c)
      simpa [walk, declarationEvents, declaration, kind, classEvents] using done
    | interface =>
      have done := entered.seq_does (em.declareInterface_does ns isDefault symbol c)
      simpa [walk, declarationEvents, declaration, kind, classEvents] using done
  | primitive p =>
    cases p with
    | none =>
      cases target : em.graph.aliasTarget? symbol with
      | none =>
        have done := plain .varDecl (varItems ns symbol.lastSegment (.primitive .none))
        simpa [Does, walk, declarationError?, declarationEvents, declaration, target] using done
      | some type =>
        have done := plain .aliasDecl (aliasItems ns symbol.lastSegment type)
        simpa [Does, walk, declarationError?, declarationEvents, declaration, target] using done
    | _ => exact plain .varDecl _
  | _ => exact plain .varDecl _

end Ambient.Emission
