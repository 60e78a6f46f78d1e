import Ambient.Proofs.Blocks
import Mathlib.Data.List.Nodup

namespace Ambient

def Event.walked? : Event → Option Name
  | .walk _ _ symbol => some symbol
  | _ => none

structure Event.PassesMembers {α : Type} (read : Event → Option α) : Prop where
  excluded : ∀ owner key, read (.excludedMember owner key) = none
  exported : ∀ owner key slot, read (.memberExportedSeparately owner key slot) = none
  skipped : ∀ owner key, read (.skippingStaticEnum owner key) = none

theorem Event.walked?_passesMembers : Event.PassesMembers Event.walked? where
  excluded _ _ := rfl
  exported _ _ _ := rfl
  skipped _ _ := rfl

theorem throughFirst_eq_self {α : Type} (fails : α → Bool) {l : List α}
    (sound : ∀ x ∈ l, fails x = false) : throughFirst fails l = l := by
  induction l with
  | nil => rfl
  | cons x l ih =>
    obtain ⟨first, rest⟩ := List.forall_mem_cons.mp sound
    rw [throughFirst, first, ih rest]
    rfl

namespace Emission

variable (em : Emission)

theorem memberEvents_silent {α : Type} {read : Event → Option α} (passes : Event.PassesMembers read)
    (owner : Name) (c : ClassType Ty) : (em.memberEvents owner c).filterMap read = [] := by
  have silent (slot : Slot) (m : String × Ty) (event : Event)
      (logged : em.memberEvent? owner slot m = some event) : read event = none := by
    unfold memberEvent? at logged
    split at logged
    · cases logged
      exact passes.excluded owner m.1
    · cases logged
      exact passes.exported owner m.1 slot
    · split at logged
      · cases logged
        exact passes.skipped owner m.1
      · contradiction
  refine List.filterMap_eq_nil_iff.mpr ?_
  intro event member
  simp only [memberEvents, List.mem_append, List.mem_filterMap] at member
  rcases member with (⟨m, _, logged⟩ | ⟨m, _, logged⟩) | ⟨m, _, logged⟩
  · exact silent .instanceField m event logged
  · exact silent .prototype m event logged
  · exact silent .static m event logged

theorem declarationEvents_filterMap {α : Type} {read : Event → Option α}
    (passes : Event.PassesMembers read) (ns : Name) (isDefault : Bool) (d : Declared) :
    (em.declarationEvents ns isDefault d).filterMap read =
      [Event.walk ns isDefault d.symbol,
        .emittingDeclaration d.symbol (em.declaration ns isDefault d).kind].filterMap read := by
  have first {members : List Event} (silent : members.filterMap read = []) (walk emit : Event) :
      (walk :: emit :: members).filterMap read = [walk, emit].filterMap read := by
    change ([walk, emit] ++ members).filterMap read = _
    rw [List.filterMap_append, silent, List.append_nil]
  refine first ?_ _ _
  split
  · split
    · exact em.memberEvents_silent passes d.symbol _
    · rfl
  · rfl

theorem declaration_symbol (ns : Name) (isDefault : Bool) (d : Declared) :
    (em.declaration ns isDefault d).symbol = d.symbol := by
  unfold declaration
  repeat' split
  all_goals rfl

theorem declarationEvents_walked (ns : Name) (isDefault : Bool) (d : Declared) :
    (em.declarationEvents ns isDefault d).filterMap Event.walked? = [d.symbol] :=
  em.declarationEvents_filterMap Event.walked?_passesMembers ns isDefault d

theorem siblingEvents_walked (ns : Name) (s : Symbol) :
    (em.siblingEvents ns s).filterMap Event.walked? =
      ((em.declaredBelow? ns s).map (·.symbol)).toList := by
  unfold siblingEvents declaredBelow?
  cases em.sibling ns s with
  | error reason => rfl
  | ok type => exact em.declarationEvents_walked ns false ⟨s.name, type⟩

theorem blockEvents_walked (p : PlacedExport) (sound : em.sectionError? p = none) :
    (em.blockEvents p).filterMap Event.walked? = (em.declared p).map (·.symbol) := by
  unfold sectionError? declared at sound
  unfold blockEvents declared
  cases kind : p.isDefault with
  | true => exact em.declarationEvents_walked p.namespaceName true ⟨p.name, p.type⟩
  | false =>
    rw [kind, if_neg (by decide), findSome?_declaredBelow, List.findSome?_eq_none_iff] at sound
    have whole := throughFirst_eq_self
      (fun s => (em.siblingError? p.namespaceName s).isSome) fun s hs => by rw [sound s hs]; rfl
    rw [if_neg (by decide), if_neg (by decide), whole, List.filterMap_flatMap,
      List.map_filterMap, List.filterMap_eq_flatMap_toList]
    exact List.flatMap_congr fun s _ => em.siblingEvents_walked p.namespaceName s

theorem events_walked (sound : em.firstError? = none) :
    em.events.filterMap Event.walked? =
      em.exports.names.flatMap fun e =>
        (em.graph.blockSymbols em.exports.names e).map (·.name) := by
  have each := List.findSome?_eq_none_iff.mp sound
  have whole := throughFirst_eq_self (fun e => (em.exportError? e).isSome)
    fun e he => by rw [each e he]; rfl
  unfold events
  rw [whole, List.filterMap_flatMap]
  refine List.flatMap_congr fun e he => ?_
  have free := each e he
  rw [exportError?_eq] at free
  unfold exportEvents
  cases placed : em.graph.place e with
  | error error =>
    rw [placed] at free
    contradiction
  | ok p =>
    rw [placed] at free
    have named := em.declared_names placed
    rw [← named, ← em.blockEvents_walked p free]
    rfl

end Emission

namespace Graph

variable (g : Graph)

def blockNames (emitted : List Name) (e : Name) : List Name :=
  if g.isDefaultExport e then [e] else (g.eligible emitted e).map (·.name)

theorem blockSymbols_names (emitted : List Name) (e : Name) :
    (g.blockSymbols emitted e).map (·.name) = g.blockNames emitted e := by
  unfold blockSymbols blockNames
  cases kind : g.isDefaultExport e with
  | false => rfl
  | true =>
    cases found : g.resolve? e with
    | none =>
      rw [isDefaultExport, found] at kind
      contradiction
    | some s =>
      have named := ((g.resolve?_eq_some_iff e s).mp found).2
      simp [named]

theorem mem_blockNames_iff (emitted : List Name) (e n : Name) :
    n ∈ g.blockNames emitted e ↔
      (g.isDefaultExport e = true ∧ n = e) ∨
        (g.isDefaultExport e = false ∧ ∃ s ∈ g.eligible emitted e, s.name = n) := by
  unfold blockNames
  cases g.isDefaultExport e with
  | true => simp
  | false => simp

theorem child_of_mem_eligible {emitted : List Name} {e : Name} {s : Symbol}
    (member : s ∈ g.eligible emitted e) :
    s.name.isDirectChild e = true ∧ s.name ∉ emitted := by
  have kept := ((g.mem_eligible_iff emitted e s).mp member).2
  obtain ⟨child, -, apart, -⟩ := (s.isEligible_iff emitted e).mp kept
  exact ⟨child, apart⟩

theorem blockNames_unique {emitted : List Name} {e e' n : Name} (he : e ∈ emitted)
    (he' : e' ∈ emitted) (first : n ∈ g.blockNames emitted e)
    (second : n ∈ g.blockNames emitted e') : e = e' := by
  -- an emitted name is never declared as a child, so the mixed cases cannot be
  rcases (g.mem_blockNames_iff emitted e n).mp first with ⟨-, rfl⟩ | ⟨-, s, member, rfl⟩
  · rcases (g.mem_blockNames_iff emitted e' n).mp second with ⟨-, rfl⟩ | ⟨-, s, member, rfl⟩
    · rfl
    · exact absurd he (g.child_of_mem_eligible member).2
  · have child := (g.child_of_mem_eligible member).1
    rcases (g.mem_blockNames_iff emitted e' s.name).mp second with ⟨-, same⟩ | ⟨-, t, other, same⟩
    · exact absurd (same ▸ he') (g.child_of_mem_eligible member).2
    · have child' := (g.child_of_mem_eligible other).1
      rw [same] at child'
      exact Name.isDirectChild_unique child child'

theorem blockNames_nodup (emitted : List Name) (e : Name) : (g.blockNames emitted e).Nodup := by
  unfold blockNames
  split
  · exact List.nodup_singleton e
  · refine List.pairwise_map.mpr ((g.eligible_ascending emitted e).imp ?_)
    intro s t before same
    exact String.lt_irrefl _ (same ▸ before)

theorem declaredNames_nodup {emitted : List Name} (ascending : emitted.Pairwise (· < ·)) :
    (emitted.flatMap (g.blockNames emitted)).Nodup := by
  refine List.nodup_flatMap.mpr ⟨fun e _ => g.blockNames_nodup emitted e, ?_⟩
  refine ascending.imp_of_mem ?_
  intro e e' he he' before n first second
  have same := g.blockNames_unique he he' first second
  exact String.lt_irrefl _ (same ▸ before)

theorem namespace_not_declared {emitted : List Name} {e : Name} (he : e ∈ emitted)
    (kind : g.isDefaultExport e = false) : e ∉ emitted.flatMap (g.blockNames emitted) := by
  intro declared
  obtain ⟨e', -, inside⟩ := List.mem_flatMap.mp declared
  rcases (g.mem_blockNames_iff emitted e' e).mp inside with ⟨default, rfl⟩ | ⟨-, s, member, same⟩
  · rw [kind] at default
    contradiction
  · exact (g.child_of_mem_eligible member).2 (same ▸ he)

theorem eligible_declared {emitted : List Name} {e : Name} (he : e ∈ emitted)
    (kind : g.isDefaultExport e = false) (s : Symbol) (member : s ∈ g.symbolList)
    (kept : s.isEligible emitted e = true) : s.name ∈ emitted.flatMap (g.blockNames emitted) := by
  have inside : s ∈ g.eligible emitted e := (g.mem_eligible_iff emitted e s).mpr ⟨member, kept⟩
  exact List.mem_flatMap.mpr ⟨e, he, (g.mem_blockNames_iff emitted e s.name).mpr
    (.inr ⟨kind, s, inside, rfl⟩)⟩

theorem sections_names (em : Emission) (sound : em.firstError? = none) :
    ∃ sections, em.sections = .ok sections ∧
      sections.map (fun s => (s.exportName, s.declarations.map (·.symbol))) =
        em.exports.names.map fun e => (e, em.graph.blockNames em.exports.names e) := by
  have all := em.mapM_section? em.exports.names
  unfold Emission.firstError? at sound
  rw [sound] at all
  refine ⟨_, all, ?_⟩
  have each := List.findSome?_eq_none_iff.mp sound
  rw [List.map_filterMap]
  refine List.filterMap_eq_map_iff_forall_eq_some.mpr fun e he => ?_
  have free := each e he
  rw [em.exportError?_eq] at free
  rw [em.section?_eq]
  cases placed : em.graph.place e with
  | error error =>
    rw [placed] at free
    contradiction
  | ok p =>
    rw [placed] at free
    have named := ((em.graph.place_eq_ok_iff e p).mp placed).1
    have symbols : (em.sectionOf p).declarations.map (·.symbol) =
        em.graph.blockNames em.exports.names e := by
      rw [← blockSymbols_names, ← em.declared_names placed, Emission.sectionOf, List.map_map]
      refine List.map_congr_left fun d _ => ?_
      exact em.declaration_symbol p.namespaceName p.isDefault d
    simp only [free, Except.toOption, Option.map_some, symbols]
    rw [Emission.sectionOf, named]

variable (view : MemberView) (config : Config) (given : List Name)

theorem emitLog_walked (sound : (Emission.ofGiven g view config given).firstError? = none) :
    (g.emitLog view config given).filterMap Event.walked? =
      (config.emitted given).flatMap (g.blockNames (config.emitted given)) := by
  have rejected : (config.rejections given).filterMap Event.walked? = [] := by
    simp [Config.rejections, Event.walked?]
  rw [emitLog_eq_events, List.filterMap_append, rejected, List.nil_append,
    Emission.events_walked _ sound]
  exact List.flatMap_congr fun e _ => g.blockSymbols_names _ e

theorem sections_of_emit {text : String} (done : g.emit view config given = .ok text) :
    ∃ sections, (Emission.ofGiven g view config given).sections = .ok sections ∧
      text = (sections.foldl (Section.put config) {}).text ∧
      sections.map (fun s => (s.exportName, s.declarations.map (·.symbol))) =
        (config.emitted given).map fun e => (e, g.blockNames (config.emitted given) e) := by
  have sound := (g.emit_ok_iff view config given).mp ⟨text, done⟩
  obtain ⟨sections, found, names⟩ := sections_names _ sound
  refine ⟨sections, found, ?_, names⟩
  rw [emit_eq_document, Emission.document, found] at done
  exact (Except.ok.inj done).symm

theorem names_of_sections {sections : List Section} {emitted : List Name}
    (names : sections.map (fun s => (s.exportName, s.declarations.map (·.symbol))) =
      emitted.map fun e => (e, g.blockNames emitted e)) :
    sections.map (·.exportName) = emitted ∧
      (sections.flatMap fun s => s.declarations.map (·.symbol)) =
        emitted.flatMap (g.blockNames emitted) := by
  constructor
  · simpa [Function.comp_def] using congrArg (List.map Prod.fst) names
  · simpa [List.flatMap_map] using congrArg (List.flatMap Prod.snd) names

/-- A successful emission walks the symbols of each block in ascending order, block by block, and
its document is made of their declarations. Nothing is declared twice, an export that is a namespace
is declared nowhere, and none of its eligible children is lost. -/
theorem declared_exactly {text : String} (done : g.emit view config given = .ok text) :
    ∃ emitted : List Name,
      emitted.Pairwise (· < ·) ∧
      (∀ e, e ∈ emitted ↔ e ∈ given ∧ config.emits e = true) ∧
      (g.emitLog view config given).filterMap Event.walked? =
        emitted.flatMap (g.blockNames emitted) ∧
      (∃ sections, (Emission.ofGiven g view config given).sections = .ok sections ∧
        text = (sections.foldl (Section.put config) {}).text ∧
        sections.map (fun s => (s.exportName, s.declarations.map (·.symbol))) =
          emitted.map fun e => (e, g.blockNames emitted e)) ∧
      (∀ e, (g.eligible emitted e).Pairwise (·.name < ·.name) ∧
        ∀ s, s ∈ g.eligible emitted e ↔ s ∈ g.symbolList ∧ s.isEligible emitted e = true) ∧
      (emitted.flatMap (g.blockNames emitted)).Nodup ∧
      (∀ e ∈ emitted, g.isDefaultExport e = false →
        e ∉ emitted.flatMap (g.blockNames emitted) ∧
        ∀ s ∈ g.symbolList, s.isEligible emitted e = true →
          s.name ∈ emitted.flatMap (g.blockNames emitted)) := by
  have ascending := config.emitted_ascending given
  have sound := (g.emit_ok_iff view config given).mp ⟨text, done⟩
  refine ⟨config.emitted given, ascending, config.mem_emitted_iff given, ?_, ?_, ?_,
    g.declaredNames_nodup ascending, ?_⟩
  · exact g.emitLog_walked view config given sound
  · exact g.sections_of_emit view config given done
  · intro e
    exact ⟨g.eligible_ascending _ e, g.mem_eligible_iff _ e⟩
  · intro e he kind
    exact ⟨g.namespace_not_declared he kind, g.eligible_declared he kind⟩

theorem library_declared_exactly :
    ∃ text, library.emit .direct {} ["lib.Util", "lib"] = .ok text ∧
      ∃ emitted : List Name, emitted.Pairwise (· < ·) ∧
        (∀ e, e ∈ emitted ↔ e ∈ ["lib.Util", "lib"] ∧ Config.emits {} e = true) ∧
        (library.emitLog .direct {} ["lib.Util", "lib"]).filterMap Event.walked? =
          emitted.flatMap (library.blockNames emitted) := by
  obtain ⟨text, done⟩ := (library.emit_ok_iff .direct {} ["lib.Util", "lib"]).mpr (by decide)
  obtain ⟨emitted, ascending, members, walks, _⟩ := declared_exactly library .direct {} _ done
  exact ⟨text, done, emitted, ascending, members, walks⟩

example : ["lib", "lib.Util"].flatMap (library.blockNames ["lib", "lib.Util"]) =
    ["lib.a", "lib.Util"] := by decide

end Graph

end Ambient
