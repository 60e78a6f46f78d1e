import Ambient.Proofs.Agreement
import Ambient.Proofs.Lines
import Ambient.Proofs.Paths

namespace Ambient

theorem mapM_related {ε α β γ : Type} {f : α → Except ε β} {f' : α → Except ε γ}
    {R : β → γ → Prop} {l : List α}
    (each : ∀ x ∈ l, (∃ error, f x = .error error ∧ f' x = .error error) ∨
      ∃ b c, f x = .ok b ∧ f' x = .ok c ∧ R b c) :
    (∃ error, l.mapM f = .error error ∧ l.mapM f' = .error error) ∨
      ∃ bs cs, l.mapM f = .ok bs ∧ l.mapM f' = .ok cs ∧ bs.Forall₂ R cs := by
  induction l with
  | nil => exact .inr ⟨[], [], rfl, rfl, .nil⟩
  | cons x l ih =>
    obtain ⟨first, rest⟩ := List.forall_mem_cons.mp each
    rw [List.mapM_cons, List.mapM_cons]
    rcases first with ⟨error, failed, failed'⟩ | ⟨b, c, done, done', related⟩
    · rw [failed, failed']
      exact .inl ⟨error, rfl, rfl⟩
    · rw [done, done']
      rcases ih rest with ⟨error, failed, failed'⟩ | ⟨bs, cs, all, all', others⟩
      · rw [failed, failed']
        exact .inl ⟨error, rfl, rfl⟩
      · rw [all, all']
        exact .inr ⟨b :: bs, c :: cs, rfl, rfl, .cons related others⟩

/-- Two sections of one export that differ in their declarations only, and these as related under
the namespace and the kind of the export. -/
structure Section.Related (R : Name → Bool → Declaration → Declaration → Prop) (s s' : Section) :
    Prop where
  exportName : s.exportName = s'.exportName
  namespaceName : s.namespaceName = s'.namespaceName
  isDefault : s.isDefault = s'.isDefault
  declarations : s.declarations.Forall₂ (R s.namespaceName s.isDefault) s'.declarations

theorem forall₂_eq {α : Type} {R : α → α → Prop} {l l' : List α} (related : l.Forall₂ R l')
    (same : ∀ x ∈ l, ∀ y, R x y → x = y) : l = l' := by
  induction related with
  | nil => rfl
  | cons first _ ih =>
    obtain ⟨head, tail⟩ := List.forall_mem_cons.mp same
    rw [head _ first, ih tail]

theorem Section.eq_of_related {R : Name → Bool → Declaration → Declaration → Prop}
    {sections sections' : List Section} (related : sections.Forall₂ (Related R) sections')
    (same : ∀ s ∈ sections, ∀ d ∈ s.declarations, ∀ d',
      R s.namespaceName s.isDefault d d' → d = d') :
    sections = sections' := by
  apply forall₂_eq related
  intro s member s' alike
  have declarations := forall₂_eq alike.declarations (same s member)
  obtain ⟨exportName, namespaceName, isDefault, -⟩ := alike
  cases s
  cases s'
  simp_all

namespace Emission

variable {em em' : Emission}

theorem declared_congr (graph : em.graph = em'.graph) (exports : em.exports = em'.exports)
    (p : PlacedExport) : em.declared p = em'.declared p := by
  unfold declared declaredBelow? sibling
  rw [graph, exports]

theorem section?_related {R : Name → Bool → Declaration → Declaration → Prop}
    (graph : em.graph = em'.graph) (exports : em.exports = em'.exports)
    (each : ∀ ns isDefault symbol type, em.graph.resolve? symbol = some ⟨symbol, some type⟩ →
      R ns isDefault (em.declaration ns isDefault ⟨symbol, type⟩)
        (em'.declaration ns isDefault ⟨symbol, type⟩)) (e : Name) :
    (∃ error, em.section? e = .error error ∧ em'.section? e = .error error) ∨
      ∃ s s', em.section? e = .ok s ∧ em'.section? e = .ok s' ∧ s.Related R s' := by
  rw [section?_eq, section?_eq, ← graph]
  cases placed : em.graph.place e with
  | error error => exact .inl ⟨error, rfl, rfl⟩
  | ok p =>
    have symbols := declared_congr graph exports p
    have problem : em'.sectionError? p = em.sectionError? p := by simp only [sectionError?, symbols]
    simp only [problem]
    cases em.sectionError? p with
    | some error => exact .inl ⟨error, rfl, rfl⟩
    | none =>
      refine .inr ⟨_, _, rfl, rfl, rfl, rfl, rfl, ?_⟩
      simp only [sectionOf, ← symbols, List.forall₂_map_left_iff, List.forall₂_map_right_iff]
      apply List.forall₂_same.mpr
      intro d member
      have stands := em.mem_blockSymbols_of_declared placed member
      have known := em.graph.mem_symbolList_of_blockSymbols stands
      exact each _ _ _ _ ((em.graph.resolve?_eq_some_iff _ _).mpr ⟨known, rfl⟩)

theorem sections_related {R : Name → Bool → Declaration → Declaration → Prop}
    (graph : em.graph = em'.graph) (exports : em.exports = em'.exports)
    (each : ∀ ns isDefault symbol type, em.graph.resolve? symbol = some ⟨symbol, some type⟩ →
      R ns isDefault (em.declaration ns isDefault ⟨symbol, type⟩)
        (em'.declaration ns isDefault ⟨symbol, type⟩)) :
    (∃ error, em.document = .error error ∧ em'.document = .error error) ∨
      ∃ sections sections', em.sections = .ok sections ∧ em'.sections = .ok sections' ∧
        sections.Forall₂ (Section.Related R) sections' := by
  have alike := mapM_related (l := em.exports.names) fun e _ =>
    (section?_related graph exports each e)
  unfold document sections
  rw [← exports]
  rcases alike with ⟨error, failed, failed'⟩ | done
  · rw [failed, failed']
    exact .inl ⟨error, rfl, rfl⟩
  · exact .inr done

end Emission

namespace Graph

variable {g : Graph} {view : MemberView} {config : Config} {given : List Name}

theorem emit_of_sections {sections : List Section}
    (found : (Emission.ofGiven g view config given).sections = .ok sections) :
    g.emit view config given = .ok (Line.writeAll (sections.flatMap (Section.lines config))) := by
  rw [emit_eq_document]
  exact Emission.document_of_lines _ found

theorem emit_eq_of_related {view' : MemberView} {config' : Config}
    {R : Name → Bool → Declaration → Declaration → Prop} {sections sections' : List Section}
    (found : (Emission.ofGiven g view config given).sections = .ok sections)
    (found' : (Emission.ofGiven g view' config' given).sections = .ok sections')
    (frames : Section.lines config = Section.lines config')
    (related : sections.Forall₂ (Section.Related R) sections')
    (same : ∀ s ∈ sections, ∀ d ∈ s.declarations, ∀ d',
      R s.namespaceName s.isDefault d d' → d = d') :
    g.emit view config given = g.emit view' config' given := by
  rw [emit_of_sections found, emit_of_sections found', Section.eq_of_related related same, frames]

theorem declares_of_sections {sections : List Section}
    (found : (Emission.ofGiven g view config given).sections = .ok sections) {s : Section}
    (member : s ∈ sections) {d : Declaration} (inside : d ∈ s.declarations) {type : Ty}
    (resolved : g.resolve? d.symbol = some ⟨d.symbol, some type⟩) :
    g.Declares view config given ⟨d.symbol, some type⟩ := by
  have sound := (g.emit_ok_iff view config given).mp ⟨_, emit_of_sections found⟩
  obtain ⟨e, he, made⟩ := exists_of_mem_mapM found member
  obtain ⟨p, placed, rfl⟩ := Emission.section?_eq_ok _ made
  obtain ⟨declared, known, rfl⟩ := List.mem_map.mp inside
  have stands := Emission.mem_blockSymbols_of_declared _ placed known
  rw [Emission.declaration_symbol] at resolved ⊢
  obtain ⟨-, walked⟩ := declares_of_mem_blockSymbols sound he stands
  exact ⟨resolved, walked⟩

end Graph

end Ambient
