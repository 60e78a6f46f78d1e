import Ambient.Emission.Document
import Ambient.Emission.Run
import Ambient.Proofs.Tables
import Ambient.Proofs.Walk

namespace Ambient

namespace Emission

open Step

variable (em : Emission)

theorem sibling_eq_ok_iff (ns : Name) (s : Symbol) (type : Ty) :
    em.sibling ns s = .ok type ↔
      s.name.isDirectChild ns = true ∧ em.exports.contains s.name = false ∧
        s.type? = some type ∧ type.isPrototype = false ∧ s.isPrototypeMethod = false := by
  unfold sibling
  split
  · simp_all
  · split
    · simp_all
    · cases s.type? with
      | none => simp
      | some t => grind

def siblingItems (ns : Name) (s : Symbol) : List Item :=
  match em.declaredBelow? ns s with
  | some d => (em.declaration ns false d).items
  | none => []

theorem isSibling_performs (ns : Name) (s : Symbol) :
    (em.isSibling ns s).Performs (em.sibling ns s).isOk
      (match em.sibling ns s with
        | .ok _ => []
        | .error reason => [.skippingSibling s.name reason]) id := by
  unfold isSibling
  cases em.sibling ns s with
  | ok type => exact performs_pure true
  | error reason => exact (performs_log _).seq (performs_pure false)

theorem declareSibling_does (ns : Name) (s : Symbol) :
    (em.declareSibling ns s).Does (em.siblingError? ns s) (em.siblingEvents ns s)
      (Item.putAll (em.siblingItems ns s)) := by
  have asked := em.isSibling_performs ns s
  unfold siblingError? siblingEvents siblingItems declaredBelow?
  cases sibling : em.sibling ns s with
  | error reason =>
    rw [sibling] at asked
    exact asked.bind (performs_pure ())
  | ok type =>
    rw [sibling] at asked
    have typed := ((em.sibling_eq_ok_iff ns s type).mp sibling).2.2.1
    have walked := em.walk_does ns false s.name type
    rw [← typed] at walked
    exact asked.bind_does walked

theorem findSome?_declaredBelow (ns : Name) (symbols : List Symbol) :
    (symbols.filterMap (em.declaredBelow? ns)).findSome? (declarationError? ns) =
      symbols.findSome? (em.siblingError? ns) := by
  rw [← List.head?_filterMap, List.filterMap_filterMap, List.head?_filterMap]
  rfl

theorem putAll_declaredBelow (ns : Name) (symbols : List Symbol) (w : Writer) :
    Item.putAll (((symbols.filterMap (em.declaredBelow? ns)).map
        (em.declaration ns false)).flatMap (·.items)) w =
      symbols.foldl (fun w s => Item.putAll (em.siblingItems ns s) w) w := by
  rw [List.flatMap_map, Item.putAll, List.foldl_flatMap, List.foldl_filterMap]
  congr
  funext w s
  unfold siblingItems
  cases em.declaredBelow? ns s with
  | none => rfl
  | some d => rfl

theorem declareInside_does (p : PlacedExport) :
    (em.declareInside p.namespaceName p.isDefault ⟨p.name, some p.type⟩).Does
      (em.sectionError? p) (em.blockEvents p)
      (Item.putAll ((em.sectionOf p).declarations.flatMap (·.items))) := by
  unfold declareInside sectionError? blockEvents sectionOf declared
  cases kind : p.isDefault with
  | true => simpa using em.walk_does p.namespaceName true p.name p.type
  | false =>
    have siblings := does_forM fun s (_ : s ∈ em.graph.childrenOf p.namespaceName) =>
      em.declareSibling_does p.namespaceName s
    simpa [← findSome?_declaredBelow, ← putAll_declaredBelow] using siblings

/-- The block of an export is closed whatever it declares, since items keep the depth. -/
theorem declareNamespace_does (p : PlacedExport) :
    (em.declareNamespace p.namespaceName p.isDefault ⟨p.name, some p.type⟩).Does
      (em.sectionError? p) (em.blockEvents p) ((em.sectionOf p).putNamespace em.config) :=
  (em.declareInside_does p).block (Item.putAll_depth _) _ _

theorem declareModule_performs (s : Section) :
    (em.declareModule s.exportName s.isDefault).Performs () [] (s.putModule em.config) := by
  have lines := performs_forM fun text
    (_ : text ∈ em.config.moduleLines s.exportName s.isDefault) => performs_write (.line text)
  have inside : ((em.config.moduleLines s.exportName s.isDefault).forM fun text =>
      Step.write (.line text)).Does none []
      fun w => (em.config.moduleLines s.exportName s.isDefault).foldl Writer.line w := by
    simpa [Does, Item.put] using lines
  exact inside.block (fun w => Writer.foldl_line_depth w _) _ _

def putExport (name : Name) (w : Writer) : Writer :=
  match em.section? name with
  | .ok s => s.put em.config w
  | .error _ => w

theorem emitExport_eq (name : Name) :
    em.emitExport name =
      match em.graph.place name with
      | .error error => throw error
      | .ok p => (do
        Step.log (.declaringExport p.name p.namespaceName p.isDefault)
        em.declareNamespace p.namespaceName p.isDefault ⟨p.name, some p.type⟩
        em.declareModule p.name p.isDefault) := by
  unfold emitExport Graph.place
  cases resolved : em.graph.resolve? name with
  | none => rfl
  | some s =>
    obtain ⟨key, type?⟩ := s
    obtain rfl : key = name := ((em.graph.resolve?_eq_some_iff name _).mp resolved).2
    cases type? with
    | none => rfl
    | some type => rfl

theorem section?_eq (name : Name) :
    em.section? name =
      match em.graph.place name with
      | .error error => .error error
      | .ok p =>
        match em.sectionError? p with
        | some error => .error error
        | none => .ok (em.sectionOf p) := by
  unfold section?
  cases em.graph.place name <;> rfl

theorem exportError?_eq (name : Name) :
    em.exportError? name =
      match em.graph.place name with
      | .error error => some error
      | .ok p => em.sectionError? p := by
  unfold exportError?
  rw [section?_eq]
  cases em.graph.place name with
  | error error => rfl
  | ok p => cases problem : em.sectionError? p <;> simp [problem]

theorem emitExport_does (name : Name) :
    (em.emitExport name).Does (em.exportError? name) (em.exportEvents name)
      (em.putExport name) := by
  unfold exportEvents putExport
  rw [emitExport_eq, exportError?_eq, section?_eq]
  cases em.graph.place name with
  | error error => exact fails_throw error
  | ok p =>
    have logged := performs_log (.declaringExport p.name p.namespaceName p.isDefault)
    have block := em.declareNamespace_does p
    have handed := em.declareModule_performs (em.sectionOf p)
    cases problem : em.sectionError? p with
    | some error =>
      rw [problem] at block
      simp only [problem]
      exact logged.seq_fails (Fails.seq block)
    | none =>
      rw [problem] at block
      have done := logged.seq (block.seq handed)
      rw [List.append_nil] at done
      simp only [problem]
      exact done

def firstError? : Option EmitError := em.exports.names.findSome? em.exportError?

def putExports (names : List Name) (w : Writer) : Writer :=
  names.foldl (fun w name => em.putExport name w) w

theorem putExport_depth (name : Name) (w : Writer) : (em.putExport name w).depth = w.depth := by
  unfold putExport
  cases em.section? name with
  | error error => rfl
  | ok s => exact (Writer.block_depth _ _ _ _).trans (Writer.block_depth _ _ _ _)

theorem putExports_depth (names : List Name) (w : Writer) :
    (em.putExports names w).depth = w.depth := by
  induction names generalizing w with
  | nil => rfl
  | cons name names ih => exact (ih _).trans (em.putExport_depth name w)

theorem emitExports_does (names : List Name) :
    (names.forM em.emitExport).Does (names.findSome? em.exportError?)
      ((throughFirst (fun name => (em.exportError? name).isSome) names).flatMap em.exportEvents)
      (em.putExports names) :=
  does_forM fun name _ => em.emitExport_does name

/-- Without a problem in an export the run gives its text, since no block is left open. -/
theorem emitAll_ok (o : Output) (level : o.writer.depth = 0) (sound : em.firstError? = none) :
    em.emitAll.run o =
      .ok (em.putExports em.exports.names o.writer).text
        ⟨em.putExports em.exports.names o.writer, o.log ++ em.events.toArray⟩ := by
  have done := em.emitExports_does em.exports.names
  -- what `finish` asks for
  have closed : (em.putExports em.exports.names o.writer).depth = 0 := by
    rw [putExports_depth, level]
  unfold firstError? at sound
  rw [sound] at done
  unfold emitAll
  rw [EStateM.run_bind, done o]
  simp only [finish, EStateM.run, Writer.finish, if_pos closed]
  rfl

theorem emitAll_error (o : Output) {error : EmitError} (problem : em.firstError? = some error) :
    ∃ writer, em.emitAll.run o = .error error ⟨writer, o.log ++ em.events.toArray⟩ := by
  have failed := em.emitExports_does em.exports.names
  unfold firstError? at problem
  rw [problem] at failed
  exact failed.bind o

theorem mapM_section? (names : List Name) :
    names.mapM em.section? =
      match names.findSome? em.exportError? with
      | some error => .error error
      | none => .ok (names.filterMap fun name => (em.section? name).toOption) := by
  induction names with
  | nil => rfl
  | cons name names ih =>
    rw [List.mapM_cons, List.findSome?_cons]
    unfold exportError?
    cases placed : em.section? name with
    | error error => rfl
    | ok s =>
      rw [ih, List.filterMap_cons]
      unfold exportError?
      cases names.findSome? _ with
      | some error => rfl
      | none =>
        rw [placed]
        rfl

theorem foldl_put (names : List Name) (w : Writer) :
    (names.filterMap fun name => (em.section? name).toOption).foldl (Section.put em.config) w =
      em.putExports names w := by
  rw [List.foldl_filterMap]
  congr
  funext w name
  unfold putExport
  cases em.section? name with
  | error error => rfl
  | ok s => rfl

theorem document_eq :
    em.document =
      match em.firstError? with
      | some error => .error error
      | none => .ok (em.putExports em.exports.names {}).text := by
  unfold document sections firstError?
  rw [mapM_section?]
  cases em.exports.names.findSome? em.exportError? with
  | some error => rfl
  | none => exact congrArg (fun w => Except.ok (Writer.text w)) (em.foldl_put _ _)

end Emission

namespace Graph

variable (g : Graph) (view : MemberView) (config : Config) (given : List Name)

theorem emit_eq_document :
    g.emit view config given = (Emission.ofGiven g view config given).document := by
  rw [Emission.document_eq]
  unfold emit emission
  cases problem : (Emission.ofGiven g view config given).firstError? with
  | some error =>
    obtain ⟨writer, run⟩ := Emission.emitAll_error _ _ problem
    rw [run]
  | none => rw [Emission.emitAll_ok _ _ rfl problem]

theorem emit_ok_iff :
    (∃ text, g.emit view config given = .ok text) ↔
      (Emission.ofGiven g view config given).firstError? = none := by
  rw [emit_eq_document, Emission.document_eq]
  cases (Emission.ofGiven g view config given).firstError? with
  | some error => simp
  | none => simp

theorem emit_error_iff (error : EmitError) :
    g.emit view config given = .error error ↔
      (Emission.ofGiven g view config given).firstError? = some error := by
  rw [emit_eq_document, Emission.document_eq]
  cases (Emission.ofGiven g view config given).firstError? with
  | some other => simp
  | none => simp

theorem emitLog_eq_events :
    g.emitLog view config given =
      config.rejections given ++ (Emission.ofGiven g view config given).events := by
  unfold emitLog emission
  cases problem : (Emission.ofGiven g view config given).firstError? with
  | some error =>
    obtain ⟨writer, run⟩ := Emission.emitAll_error _ _ problem
    rw [run]
    simp
  | none =>
    rw [Emission.emitAll_ok _ _ rfl problem]
    simp

end Graph

end Ambient
