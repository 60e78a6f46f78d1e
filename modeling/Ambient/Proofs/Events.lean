import Ambient.Proofs.Listing
import Ambient.Proofs.Members

namespace Ambient

theorem throughFirst_cases {α : Type} (fails : α → Bool) (l : List α) :
    ((∀ x ∈ l, fails x = false) ∧ throughFirst fails l = l) ∨
      ∃ before x after, l = before ++ x :: after ∧ (∀ y ∈ before, fails y = false) ∧
        fails x = true ∧ throughFirst fails l = before ++ [x] := by
  induction l with
  | nil => exact .inl ⟨List.forall_mem_nil _, rfl⟩
  | cons x l ih =>
    unfold throughFirst
    cases first : fails x with
    | true => exact .inr ⟨[], x, l, rfl, List.forall_mem_nil _, first, rfl⟩
    | false =>
      rcases ih with ⟨sound, whole⟩ | ⟨before, y, after, rfl, sound, failed, stopped⟩
      · exact .inl ⟨List.forall_mem_cons.mpr ⟨first, sound⟩, by simp [whole]⟩
      · exact .inr ⟨x :: before, y, after, rfl, List.forall_mem_cons.mpr ⟨first, sound⟩, failed,
          by simp [stopped]⟩

theorem throughFirst_subset {α : Type} (fails : α → Bool) (l : List α) :
    throughFirst fails l ⊆ l := by
  rcases throughFirst_cases fails l with ⟨-, whole⟩ | ⟨before, x, after, rfl, -, -, stopped⟩
  · simp [whole]
  · simp [stopped]

/-! ### Walks and what they emit -/

namespace Event

/-- Logs in which walks and emitted declarations come in pairs, with nothing between the two. -/
inductive Paired (kindOf : Name → DeclKind → Prop) : List Event → Prop
  | nil : Paired kindOf []
  | other {event : Event} {log : List Event}
      (walks : ∀ ns isDefault s, event ≠ .walk ns isDefault s)
      (emits : ∀ s kind, event ≠ .emittingDeclaration s kind) (rest : Paired kindOf log) :
      Paired kindOf (event :: log)
  | pair {ns : Name} {isDefault : Bool} {s : Name} {kind : DeclKind} {log : List Event}
      (known : kindOf s kind) (rest : Paired kindOf log) :
      Paired kindOf (.walk ns isDefault s :: .emittingDeclaration s kind :: log)

namespace Paired

variable {kindOf : Name → DeclKind → Prop} {log more : List Event}

theorem append (first : Paired kindOf log) (second : Paired kindOf more) :
    Paired kindOf (log ++ more) := by
  induction first with
  | nil => exact second
  | other walks emits _ ih => exact .other walks emits ih
  | pair known _ ih => exact .pair known ih

theorem flatMap {α : Type} {l : List α} {f : α → List Event}
    (each : ∀ x ∈ l, Paired kindOf (f x)) : Paired kindOf (l.flatMap f) := by
  induction l with
  | nil => exact .nil
  | cons x l ih =>
    obtain ⟨first, rest⟩ := List.forall_mem_cons.mp each
    exact first.append (ih rest)

theorem after_walk (paired : Paired kindOf log) {before after : List Event} {ns : Name}
    {isDefault : Bool} {s : Name} (split : log = before ++ .walk ns isDefault s :: after) :
    ∃ kind rest, after = .emittingDeclaration s kind :: rest ∧ kindOf s kind := by
  induction paired generalizing before with
  | nil => simp at split
  | @other event log walks _ _ ih =>
    cases before with
    | nil => exact absurd (List.cons.inj split).1 (walks ns isDefault s)
    | cons _ before => exact ih (List.cons.inj split).2
  | @pair _ _ _ _ log known _ ih =>
    match before with
    | [] =>
      cases split
      exact ⟨_, log, rfl, known⟩
    | [_] => simp at split
    | _ :: _ :: before =>
      simp only [List.cons_append, List.cons.injEq] at split
      exact ih split.2.2

theorem before_emitting (paired : Paired kindOf log) {before after : List Event} {s : Name}
    {kind : DeclKind} (split : log = before ++ .emittingDeclaration s kind :: after) :
    ∃ earlier ns isDefault, before = earlier ++ [.walk ns isDefault s] := by
  induction paired generalizing before with
  | nil => simp at split
  | @other event log _ emits _ ih =>
    cases before with
    | nil => exact absurd (List.cons.inj split).1 (emits s kind)
    | cons _ before =>
      obtain ⟨earlier, ns, isDefault, rfl⟩ := ih (List.cons.inj split).2
      exact ⟨_ :: earlier, ns, isDefault, rfl⟩
  | @pair ns isDefault _ _ _ _ _ ih =>
    match before with
    | [] => simp at split
    | [_] =>
      cases split
      exact ⟨[], ns, isDefault, rfl⟩
    | _ :: _ :: before =>
      simp only [List.cons_append, List.cons.injEq] at split
      obtain ⟨earlier, ns, isDefault, rfl⟩ := ih split.2.2
      exact ⟨_ :: _ :: earlier, ns, isDefault, rfl⟩

end Paired

end Event

namespace Graph

variable (g : Graph)

/-- The kind of declaration that a type gives its symbol. A symbol that kept only the empty type is
an alias if the program has its target. -/
def declKind (name : Name) : Ty → DeclKind
  | .function _ => .functionDecl
  | .classlike c => c.kind.declKind
  | .enumeration _ => .enumDecl
  | type => if type.isNone && (g.aliasTarget? name).isSome then .aliasDecl else .varDecl

theorem declKind_eq_aliasDecl_iff (name : Name) (type : Ty) :
    g.declKind name type = .aliasDecl ↔
      type = .primitive .none ∧ ∃ target, g.aliasTarget? name = some target := by
  rw [← Option.isSome_iff_exists]
  cases type with
  | classlike c => cases kind : c.kind <;> simp [declKind, kind, ClassKind.declKind]
  | primitive p => cases p <;> simp [declKind, Ty.isNone, Option.isSome_iff_ne_none]
  | _ => simp [declKind, Ty.isNone]

def HasKind (name : Name) (kind : DeclKind) : Prop :=
  ∃ type, g.resolve? name = some ⟨name, some type⟩ ∧ kind = g.declKind name type

end Graph

namespace Emission

variable (em : Emission)

theorem declaration_kind (ns : Name) (isDefault : Bool) (d : Declared) :
    (em.declaration ns isDefault d).kind = em.graph.declKind d.symbol d.type := by
  obtain ⟨symbol, type⟩ := d
  cases type with
  | classlike c =>
    cases kind : c.kind <;> simp [declaration, Graph.declKind, kind, ClassKind.declKind]
  | primitive p =>
    cases p with
    | none =>
      cases target : em.graph.aliasTarget? symbol <;>
        simp [declaration, Graph.declKind, Ty.isNone, target]
    | _ => simp [declaration, Graph.declKind, Ty.isNone]
  | _ => simp [declaration, Graph.declKind, Ty.isNone]

theorem memberEvents_paired (kindOf : Name → DeclKind → Prop) (owner : Name) (c : ClassType Ty) :
    Event.Paired kindOf (em.memberEvents owner c) := by
  have each (slot : Slot) (table : Properties) :
      Event.Paired kindOf (table.filterMap (em.memberEvent? owner slot)) := by
    induction table with
    | nil => exact .nil
    | cons m table ih =>
      rw [List.filterMap_cons]
      unfold memberEvent?
      split
      · exact ih
      · next event logged =>
        refine .other ?_ ?_ ih
        · rintro ns isDefault s rfl
          split at logged <;> simp at logged
        · rintro s kind rfl
          split at logged <;> simp at logged
  exact ((each .instanceField _).append (each .prototype _)).append (each .static _)

theorem declarationEvents_paired (ns : Name) (isDefault : Bool) {d : Declared}
    (known : em.graph.resolve? d.symbol = some ⟨d.symbol, some d.type⟩) :
    Event.Paired em.graph.HasKind (em.declarationEvents ns isDefault d) := by
  have kind : em.graph.HasKind d.symbol (em.declaration ns isDefault d).kind :=
    ⟨d.type, known, em.declaration_kind ns isDefault d⟩
  refine .pair kind ?_
  split
  · split
    · exact em.memberEvents_paired _ d.symbol _
    · exact .nil
  · exact .nil

end Emission

/-! ### Children and the reasons to skip them -/

namespace SkipReason

def inOrder : List SkipReason :=
  [nestedBelowChild, exportedSeparately, untyped, prototypeObject, prototypeMethod]

/-- Whether a symbol below a namespace would be skipped for a reason alone. -/
def applies (emitted : List Name) (ns : Name) (s : Symbol) : SkipReason → Bool
  | nestedBelowChild => !s.name.isDirectChild ns
  | exportedSeparately => s.name ∈ emitted
  | untyped => s.type?.isNone
  | prototypeObject => s.type?.any (·.isPrototype)
  | prototypeMethod => s.isPrototypeMethod

end SkipReason

namespace Symbol

def skipReason? (s : Symbol) (emitted : List Name) (ns : Name) : Option SkipReason :=
  SkipReason.inOrder.find? (SkipReason.applies emitted ns s)

/-- What becomes of a symbol below a namespace: it is skipped for the first reason that applies, and
walked if none does. -/
def childEvent (s : Symbol) (emitted : List Name) (ns : Name) : Event :=
  match s.skipReason? emitted ns with
  | some reason => .skippingSibling s.name reason
  | none => .walk ns false s.name

end Symbol

def Event.child? : Event → Option Event
  | .walk ns isDefault s => some (.walk ns isDefault s)
  | .skippingSibling s reason => some (.skippingSibling s reason)
  | _ => none

theorem Event.child?_passesMembers : Event.PassesMembers Event.child? where
  excluded _ _ := rfl
  exported _ _ _ := rfl
  skipped _ _ := rfl

namespace Emission

variable (em : Emission) (ns : Name)

theorem sibling_eq_error_iff (s : Symbol) (reason : SkipReason) :
    em.sibling ns s = .error reason ↔ s.skipReason? em.exports.names ns = some reason := by
  have emitted := em.exports.contains_iff s.name
  unfold sibling Symbol.skipReason? SkipReason.inOrder
  cases child : s.name.isDirectChild ns with
  | false => simp [SkipReason.applies, child]
  | true =>
    cases apart : em.exports.contains s.name with
    | true =>
      have member := emitted.mp apart
      simp [SkipReason.applies, child, member]
    | false =>
      have member : s.name ∉ em.exports.names := by simpa [apart] using emitted
      cases type : s.type? with
      | none => simp [SkipReason.applies, child, member, type]
      | some t =>
        cases object : t.isPrototype with
        | true => simp [SkipReason.applies, child, member, type, object]
        | false =>
          cases method : s.isPrototypeMethod <;>
            simp [SkipReason.applies, child, member, type, object, method]

theorem skipReason?_of_sibling {s : Symbol} {type : Ty} (found : em.sibling ns s = .ok type) :
    s.skipReason? em.exports.names ns = none := by
  cases skipped : s.skipReason? em.exports.names ns with
  | none => rfl
  | some reason =>
    have dropped := (em.sibling_eq_error_iff ns s reason).mpr skipped
    rw [found] at dropped
    contradiction

theorem siblingEvents_child (s : Symbol) :
    (em.siblingEvents ns s).filterMap Event.child? = [s.childEvent em.exports.names ns] := by
  unfold siblingEvents Symbol.childEvent
  cases found : em.sibling ns s with
  | ok type =>
    rw [em.skipReason?_of_sibling ns found]
    exact em.declarationEvents_filterMap Event.child?_passesMembers ns false ⟨s.name, type⟩
  | error reason =>
    rw [(em.sibling_eq_error_iff ns s reason).mp found]
    rfl

theorem siblingError?_eq_some {s : Symbol} {error : EmitError}
    (failed : em.siblingError? ns s = some error) :
    s.childEvent em.exports.names ns = .walk ns false s.name ∧
      s.instanceProblem? ns = some error := by
  unfold siblingError? declaredBelow? at failed
  cases found : em.sibling ns s with
  | error reason => simp [found] at failed
  | ok type =>
    have typed := ((em.sibling_eq_ok_iff ns s type).mp found).2.2.1
    have problem := declarationError?_declaredAs ns s
    simp only [found, Option.bind_some] at failed
    simp only [declaredAs?, typed, Option.map_some, Option.bind_some, failed] at problem
    refine ⟨?_, problem.symm⟩
    unfold Symbol.childEvent
    rw [em.skipReason?_of_sibling ns found]

theorem siblingEvents_paired {s : Symbol} (known : s ∈ em.graph.symbolList) :
    Event.Paired em.graph.HasKind (em.siblingEvents ns s) := by
  unfold siblingEvents
  cases found : em.sibling ns s with
  | error reason => exact .other nofun nofun .nil
  | ok type =>
    have typed := ((em.sibling_eq_ok_iff ns s type).mp found).2.2.1
    refine em.declarationEvents_paired ns false ((em.graph.resolve?_eq_some_iff _ _).mpr ⟨?_, rfl⟩)
    rwa [← typed]

end Emission

/-! ### The sections of a log -/

/-- What is logged of an export: it comes to be declared, and then what happens in its block. -/
structure LogSection where
  placed : PlacedExport
  events : List Event

namespace LogSection

def log (s : LogSection) : List Event :=
  .declaringExport s.placed.name s.placed.namespaceName s.placed.isDefault :: s.events

/-- What a section tells of its export. A default export is walked itself. The children of a
namespace are told one by one, in their order and up to the one that has a problem, if there is
one. -/
structure Tells (g : Graph) (emitted : List Name) (s : LogSection) : Prop where
  placed : g.place s.placed.name = .ok s.placed
  own : ∀ event ∈ s.events, event.placed? = none
  default : s.placed.isDefault = true →
    s.events.filterMap Event.child? = [.walk s.placed.namespaceName true s.placed.name]
  children : s.placed.isDefault = false → ∃ seen unseen,
    g.childrenOf s.placed.name = seen ++ unseen ∧
      s.events.filterMap Event.child? = seen.map (·.childEvent emitted s.placed.name) ∧
      match g.exportProblem? emitted s.placed.name with
      | none => unseen = []
      | some error => ∃ before last, seen = before ++ [last] ∧
          last.childEvent emitted s.placed.name = .walk s.placed.name false last.name ∧
          last.instanceProblem? s.placed.name = some error

end LogSection

namespace Emission

variable (em : Emission)

def logSection (p : PlacedExport) : LogSection := ⟨p, em.blockEvents p⟩

def logSection? (e : Name) : Option LogSection :=
  match em.graph.place e with
  | .ok p => some (em.logSection p)
  | .error _ => none

/-- The sections of the log of an emission: those of the exports that are placed, up to the first
that has a problem. -/
def logSections : List LogSection :=
  (throughFirst (fun e => (em.exportError? e).isSome) em.exports.names).filterMap em.logSection?

theorem exists_of_mem_logSections {s : LogSection} (member : s ∈ em.logSections) :
    ∃ p, em.graph.place p.name = .ok p ∧ s = em.logSection p := by
  obtain ⟨e, -, made⟩ := List.mem_filterMap.mp member
  unfold logSection? at made
  cases placed : em.graph.place e with
  | error error => simp [placed] at made
  | ok p =>
    obtain ⟨rfl, -⟩ := (em.graph.place_eq_ok_iff e p).mp placed
    simp only [placed, Option.some.injEq] at made
    exact ⟨p, placed, made.symm⟩

theorem events_eq_sections : em.events = em.logSections.flatMap LogSection.log := by
  unfold events logSections
  rw [List.filterMap_eq_flatMap_toList, List.flatMap_assoc]
  refine List.flatMap_congr fun e _ => ?_
  unfold exportEvents logSection?
  cases em.graph.place e with
  | error error => rfl
  | ok p => simp [LogSection.log, logSection]

theorem blockEvents_default {p : PlacedExport} (default : p.isDefault = true) :
    (em.blockEvents p).filterMap Event.child? = [.walk p.namespaceName true p.name] := by
  unfold blockEvents
  rw [if_pos default]
  exact em.declarationEvents_filterMap Event.child?_passesMembers p.namespaceName true
    ⟨p.name, p.type⟩

theorem blockEvents_children {p : PlacedExport} (namespaced : p.isDefault = false)
    (placed : em.graph.place p.name = .ok p) : ∃ seen unseen,
      em.graph.childrenOf p.name = seen ++ unseen ∧
        (em.blockEvents p).filterMap Event.child? =
          seen.map (·.childEvent em.exports.names p.name) ∧
        match em.graph.exportProblem? em.exports.names p.name with
        | none => unseen = []
        | some error => ∃ before last, seen = before ++ [last] ∧
            last.childEvent em.exports.names p.name = .walk p.name false last.name ∧
            last.instanceProblem? p.name = some error := by
  have ns : p.namespaceName = p.name := by simp [PlacedExport.namespaceName, namespaced]
  have told (seen : List Symbol) : (seen.flatMap (em.siblingEvents p.name)).filterMap Event.child? =
      seen.map (·.childEvent em.exports.names p.name) := by
    rw [List.filterMap_flatMap, List.map_eq_flatMap]
    exact List.flatMap_congr fun s _ => em.siblingEvents_child p.name s
  have problem : em.graph.exportProblem? em.exports.names p.name =
      (em.graph.childrenOf p.name).findSome? (em.siblingError? p.name) := by
    rw [← exportError?_eq_exportProblem?, exportError?_eq, placed, ← findSome?_declaredBelow]
    simp [sectionError?, declared, namespaced, ns]
  have block : em.blockEvents p = (throughFirst (fun s => (em.siblingError? p.name s).isSome)
      (em.graph.childrenOf p.name)).flatMap (em.siblingEvents p.name) := by
    simp [blockEvents, namespaced, ns]
  rw [block, problem]
  rcases throughFirst_cases (fun s => (em.siblingError? p.name s).isSome)
      (em.graph.childrenOf p.name) with
    ⟨sound, whole⟩ | ⟨before, last, after, split, sound, failed, stopped⟩
  · have free : (em.graph.childrenOf p.name).findSome? (em.siblingError? p.name) = none :=
      List.findSome?_eq_none_iff.mpr fun s member => by simpa using sound s member
    rw [whole, told, free]
    exact ⟨_, [], (List.append_nil _).symm, rfl, rfl⟩
  · obtain ⟨error, stated⟩ := Option.isSome_iff_exists.mp failed
    have first : (em.graph.childrenOf p.name).findSome? (em.siblingError? p.name) = some error :=
      List.findSome?_eq_some_iff.mpr
        ⟨before, last, after, split, stated, fun s member => by simpa using sound s member⟩
    rw [stopped, told, first]
    refine ⟨before ++ [last], after, by simp [split], rfl, before, last, rfl, ?_⟩
    exact em.siblingError?_eq_some p.name stated

theorem logSection_tells {p : PlacedExport} (placed : em.graph.place p.name = .ok p) :
    (em.logSection p).Tells em.graph em.exports.names where
  placed := placed
  own := List.filterMap_eq_nil_iff.mp (em.blockEvents_placed p)
  default := em.blockEvents_default
  children namespaced := em.blockEvents_children namespaced placed

theorem blockEvents_paired {p : PlacedExport} (placed : em.graph.place p.name = .ok p) :
    Event.Paired em.graph.HasKind (em.blockEvents p) := by
  obtain ⟨-, resolved⟩ := (em.graph.place_eq_ok_iff p.name p).mp placed
  unfold blockEvents
  split
  · exact em.declarationEvents_paired p.namespaceName true resolved
  · apply Event.Paired.flatMap
    intro s member
    have child : s ∈ em.graph.childrenOf p.namespaceName :=
      throughFirst_subset _ _ member
    rw [em.graph.childrenOf_eq_filter] at child
    exact em.siblingEvents_paired p.namespaceName (List.mem_of_mem_filter child)

theorem names_of_sound {names : List Name} (sound : ∀ e ∈ names, em.exportError? e = none) :
    (names.filterMap em.logSection?).map (·.placed.name) = names := by
  induction names with
  | nil => rfl
  | cons e names ih =>
    obtain ⟨first, rest⟩ := List.forall_mem_cons.mp sound
    rw [exportError?_eq] at first
    cases placed : em.graph.place e with
    | error error => simp [placed] at first
    | ok p =>
      have named := ((em.graph.place_eq_ok_iff e p).mp placed).1
      have made : em.logSection? e = some (em.logSection p) := by simp [logSection?, placed]
      simp [made, logSection, named, ih rest]

/-- The log ends with the section of the export that has the first problem, or before it if the
export cannot be placed. -/
theorem logSections_names :
    (em.firstError? = none ∧ em.logSections.map (·.placed.name) = em.exports.names) ∨
      ∃ before e after error, em.exports.names = before ++ e :: after ∧
        em.firstError? = some error ∧ em.exportError? e = some error ∧
        em.logSections.map (·.placed.name) =
          match em.graph.place e with
          | .error _ => before
          | .ok _ => before ++ [e] := by
  unfold logSections
  rcases throughFirst_cases (fun e => (em.exportError? e).isSome) em.exports.names with
    ⟨sound, whole⟩ | ⟨before, e, after, split, sound, failed, stopped⟩
  · have free : ∀ e ∈ em.exports.names, em.exportError? e = none :=
      fun e member => by simpa using sound e member
    rw [whole]
    exact .inl ⟨List.findSome?_eq_none_iff.mpr free, em.names_of_sound free⟩
  · have free : ∀ e ∈ before, em.exportError? e = none :=
      fun e member => by simpa using sound e member
    obtain ⟨error, stated⟩ := Option.isSome_iff_exists.mp failed
    have first : em.firstError? = some error :=
      List.findSome?_eq_some_iff.mpr ⟨before, e, after, split, stated, free⟩
    refine .inr ⟨before, e, after, error, split, first, stated, ?_⟩
    rw [stopped, List.filterMap_append, List.map_append, em.names_of_sound free]
    cases placed : em.graph.place e with
    | error other => simp [logSection?, placed]
    | ok p =>
      have named := ((em.graph.place_eq_ok_iff e p).mp placed).1
      simp [logSection?, placed, logSection, named]

theorem logSections_tell : ∀ s ∈ em.logSections, s.Tells em.graph em.exports.names := by
  intro s member
  obtain ⟨p, placed, rfl⟩ := em.exists_of_mem_logSections member
  exact em.logSection_tells placed

theorem logSections_paired : ∀ s ∈ em.logSections, Event.Paired em.graph.HasKind s.log := by
  intro s member
  obtain ⟨p, placed, rfl⟩ := em.exists_of_mem_logSections member
  exact .other nofun nofun (em.blockEvents_paired placed)

end Emission

namespace Graph

variable (g : Graph) (view : MemberView) (config : Config) (given : List Name)

/-- Which exports come to be declared by the outcome: all of them, those before one that cannot be
placed, or those up to one with a class in its block that cannot be declared. -/
def NamesUpTo (emitted names : List Name) : Except EmitError String → Prop
  | .ok _ => names = emitted
  | .error (.unresolvedExport e) | .error (.untypedSymbol e) =>
    ∃ after, emitted = names ++ e :: after
  | .error (.thisNotObject symbol found) => ∃ before e after, emitted = before ++ e :: after ∧
      names = before ++ [e] ∧ g.exportProblem? emitted e = some (.thisNotObject symbol found)
  | .error (.layout _) => False

theorem logSections_namesUpTo :
    g.NamesUpTo (config.emitted given)
      ((Emission.ofGiven g view config given).logSections.map (·.placed.name))
      (g.emit view config given) := by
  rcases (Emission.ofGiven g view config given).logSections_names with
    ⟨sound, names⟩ | ⟨before, e, after, error, split, first, stated, names⟩
  · obtain ⟨text, done⟩ := (g.emit_ok_iff view config given).mpr sound
    rw [done]
    exact names
  · rw [(g.emit_error_iff view config given error).mpr first, names]
    rw [Emission.exportError?_eq_exportProblem?] at stated
    change g.exportProblem? (config.emitted given) e = some error at stated
    change config.emitted given = before ++ e :: after at split
    change g.NamesUpTo _ (match g.place e with | .error _ => before | .ok _ => before ++ [e]) _
    cases placed : g.place e with
    | error other =>
      obtain ⟨problem, kind⟩ := g.place_eq_error placed (config.emitted given)
      obtain rfl : error = other := Option.some.inj (stated.symm.trans problem)
      rcases kind with rfl | rfl
      · exact ⟨after, split⟩
      · exact ⟨after, split⟩
    | ok p =>
      obtain ⟨s, -, found, rfl⟩ := g.thisNotObject_of_place placed stated
      exact ⟨before, e, after, split, rfl, stated⟩

theorem emitLog_sections :
    g.emitLog view config given = config.rejections given ++
      (Emission.ofGiven g view config given).logSections.flatMap LogSection.log := by
  rw [emitLog_eq_events, Emission.events_eq_sections]

theorem emitLog_paired : Event.Paired g.HasKind (g.emitLog view config given) := by
  have rejected : Event.Paired g.HasKind (config.rejections given) := by
    unfold Config.rejections
    induction given.filter (!config.emits ·) with
    | nil => exact .nil
    | cons e rest ih => exact .other nofun nofun ih
  rw [emitLog_sections]
  exact rejected.append (Event.Paired.flatMap (Emission.logSections_paired _))

theorem childrenOf_ascending (ns : Name) : (g.childrenOf ns).Pairwise (·.name < ·.name) := by
  rw [childrenOf_eq_filter]
  exact g.symbolList_ascending.filter _

/-- The log of an emission, of one that fails too. After the exports that are no entry points it
has a section for each export that came to be declared, which the outcome decides. The section
tells what became of each child of its namespace. A walk is followed at once by the declaration
it emits, of the kind that the type of the symbol gives it, and nothing else is emitted. -/
theorem log_tells :
    (config.emitted given).Pairwise (· < ·) ∧
    (∀ e, e ∈ config.emitted given ↔ e ∈ given ∧ config.emits e = true) ∧
    (∀ ns, (g.childrenOf ns).Pairwise (·.name < ·.name)) ∧
    (∃ sections : List LogSection,
      g.emitLog view config given = config.rejections given ++ sections.flatMap LogSection.log ∧
      (g.emitLog view config given).filterMap Event.placed? = sections.map (fun s =>
        (s.placed.name, s.placed.namespaceName, s.placed.isDefault)) ∧
      g.NamesUpTo (config.emitted given) (sections.map (·.placed.name))
        (g.emit view config given) ∧
      ∀ s ∈ sections, s.Tells g (config.emitted given)) ∧
    (∀ before ns isDefault s after,
      g.emitLog view config given = before ++ .walk ns isDefault s :: after →
      ∃ type rest, g.resolve? s = some ⟨s, some type⟩ ∧
        after = .emittingDeclaration s (g.declKind s type) :: rest ∧
        (g.declKind s type = .aliasDecl ↔
          type = .primitive .none ∧ ∃ target, g.aliasTarget? s = some target)) ∧
    (∀ before s kind after,
      g.emitLog view config given = before ++ .emittingDeclaration s kind :: after →
      ∃ earlier ns isDefault, before = earlier ++ [.walk ns isDefault s]) := by
  have paired := g.emitLog_paired view config given
  have told := (Emission.ofGiven g view config given).logSections_tell
  have whole := g.emitLog_sections view config given
  refine ⟨config.emitted_ascending given, config.mem_emitted_iff given, g.childrenOf_ascending,
    ⟨_, whole, ?_, g.logSections_namesUpTo view config given, told⟩, ?_, ?_⟩
  · have rejected : (config.rejections given).filterMap Event.placed? = [] := by
      simp [Config.rejections, Event.placed?]
    rw [whole, List.filterMap_append, rejected, List.nil_append, List.filterMap_flatMap,
      List.map_eq_flatMap]
    refine List.flatMap_congr fun s member => ?_
    have own := List.filterMap_eq_nil_iff.mpr (told s member).own
    simp [LogSection.log, Event.placed?, own]
  · intro before ns isDefault s after split
    obtain ⟨kind, rest, rfl, type, resolved, rfl⟩ := paired.after_walk split
    exact ⟨type, rest, resolved, rfl, g.declKind_eq_aliasDecl_iff s type⟩
  · intro before s kind after split
    exact paired.before_emitting split

/-- The class of the block cannot be declared, so its sibling is not told and the other export
is not declared. -/
theorem numbered_log_tells :
    numbered.emitLog .direct {} ["lost", "lib"] =
        [.declaringExport "lib" "lib" false, .walk "lib" false "lib.C",
          .emittingDeclaration "lib.C" .classDecl] ∧
      ∃ type, numbered.resolve? "lib.C" = some ⟨"lib.C", some type⟩ ∧
        numbered.declKind "lib.C" type = .classDecl := by
  have log : numbered.emitLog .direct {} ["lost", "lib"] =
      [.declaringExport "lib" "lib" false, .walk "lib" false "lib.C",
        .emittingDeclaration "lib.C" .classDecl] := by
    rw [emitLog_eq_events]
    decide
  obtain ⟨-, -, -, -, walks, -⟩ := log_tells numbered .direct {} ["lost", "lib"]
  obtain ⟨type, rest, resolved, emitted, -⟩ :=
    walks [.declaringExport "lib" "lib" false] "lib" false "lib.C" _ log
  have kind : .classDecl = numbered.declKind "lib.C" type := by
    simpa using (List.cons.inj emitted).1
  exact ⟨log, type, resolved, kind.symm⟩

example : library.emitLog .direct {} ["lib.Util", "lib"] =
    [.declaringExport "lib" "lib" false, .skippingSibling "lib.Util" .exportedSeparately,
      .walk "lib" false "lib.a", .emittingDeclaration "lib.a" .varDecl,
      .skippingSibling "lib.a.deep" .nestedBelowChild, .skippingSibling "lib.late" .untyped,
      .declaringExport "lib.Util" "lib" true, .walk "lib" true "lib.Util",
      .emittingDeclaration "lib.Util" .classDecl] := by
  rw [emitLog_eq_events]
  decide

end Graph

end Ambient
