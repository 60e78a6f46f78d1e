import Ambient.Proofs.Outcome

namespace Ambient

/-- At depth zero, with no text on the current line. -/
def Writer.AtMargin (w : Writer) : Prop := w.depth = 0 ∧ w.atLineStart = true

def Step.Ends (p : Step Unit) (o : Output) (failed : EmitError → Prop) (done : Output → Prop) :
    Prop :=
  match p.run o with
  | .ok _ o' => done o'
  | .error error _ => failed error

theorem Step.Does.ends {p : Step Unit} {error? : Option EmitError} {events : List Event}
    {change : Writer → Writer} (does : p.Does error? events change) (o : Output)
    {failed : EmitError → Prop} {done : Output → Prop}
    (fails : ∀ error, error? = some error → failed error)
    (succeeds : error? = none → done ⟨change o.writer, o.log ++ events.toArray⟩) :
    p.Ends o failed done := by
  unfold Step.Ends
  cases error? with
  | none =>
    rw [does o]
    exact succeeds rfl
  | some error =>
    obtain ⟨writer, run⟩ := does o
    rw [run]
    exact fails error rfl

theorem Step.Ends.imp {p : Step Unit} {o : Output} {failed failed' : EmitError → Prop}
    {done done' : Output → Prop} (ends : p.Ends o failed done)
    (fails : ∀ error, failed error → failed' error) (succeeds : ∀ o', done o' → done' o') :
    p.Ends o failed' done' := by
  unfold Step.Ends at ends ⊢
  cases run : p.run o with
  | ok _ o' =>
    rw [run] at ends
    exact succeeds o' ends
  | error error _ =>
    rw [run] at ends
    exact fails error ends

theorem Step.Ends.succeeds {p : Step Unit} {o : Output} {failed : EmitError → Prop}
    {done : Output → Prop} (ends : p.Ends o failed done) (never : ∀ error, ¬ failed error) :
    ∃ o', p.run o = .ok () o' ∧ done o' := by
  unfold Step.Ends at ends
  cases run : p.run o with
  | ok _ o' =>
    rw [run] at ends
    exact ⟨o', rfl, ends⟩
  | error error _ =>
    rw [run] at ends
    exact absurd ends (never error)

namespace Emission

variable (em : Emission)

theorem put_atMargin (c : Config) (s : Section) {w : Writer} (margin : w.AtMargin) :
    (s.put c w).AtMargin := by
  obtain ⟨level, -⟩ := margin
  have depth : (s.put c w).depth = w.depth :=
    (Writer.block_depth _ _ _ _).trans (Writer.block_depth _ _ _ _)
  exact ⟨depth.trans level, Writer.block_atLineStart _ _ _ _⟩

theorem putExport_atMargin (e : Name) {w : Writer} (margin : w.AtMargin) :
    (em.putExport e w).AtMargin := by
  unfold putExport
  cases em.section? e with
  | error error => exact margin
  | ok s => exact put_atMargin em.config s margin

theorem putExports_atMargin (names : List Name) {w : Writer} (margin : w.AtMargin) :
    (em.putExports names w).AtMargin := by
  induction names generalizing w with
  | nil => exact margin
  | cons e names ih => exact ih (em.putExport_atMargin e margin)

theorem exportError?_not_layout (e : Name) (error : LayoutError) :
    em.exportError? e ≠ some (.layout error) := by
  intro problem
  rw [exportError?_eq_exportProblem?] at problem
  rcases em.graph.exportProblem?_cases problem with other | other | ⟨symbol, found, other⟩
  · contradiction
  · contradiction
  · contradiction

theorem emitExport_at_margin (e : Name) {o : Output} (margin : o.writer.AtMargin) :
    (em.emitExport e).Ends o (fun error => em.exportError? e = some error)
      fun o' => o'.writer.AtMargin :=
  (em.emitExport_does e).ends o (fun _ problem => problem)
    fun _ => em.putExport_atMargin e margin

theorem emitExports_at_margin (names : List Name) {o : Output} (margin : o.writer.AtMargin) :
    (names.forM em.emitExport).Ends o
      (fun error => names.findSome? em.exportError? = some error)
      fun o' => names.findSome? em.exportError? = none ∧ o'.writer.AtMargin :=
  (em.emitExports_does names).ends o (fun _ problem => problem)
    fun sound => ⟨sound, em.putExports_atMargin names margin⟩

/-- An export splits the run into the sections before it, its own and those after it, and the first
problem of the emission is the first one in this order. -/
theorem firstError?_split {before after : List Name} {e : Name}
    (split : em.exports.names = before ++ e :: after) :
    em.firstError? = (before.findSome? em.exportError?).or
      ((em.exportError? e).or (after.findSome? em.exportError?)) := by
  rw [firstError?, split, List.findSome?_append, List.findSome?_cons]
  cases em.exportError? e with
  | none => rfl
  | some error => rfl

theorem section_at_margin {before after : List Name} {e : Name}
    (split : em.exports.names = before ++ e :: after) {o : Output} (margin : o.writer.AtMargin) :
    (before.forM em.emitExport).Ends o (fun error => em.firstError? = some error)
      fun o' => o'.writer.AtMargin ∧
        (em.emitExport e).Ends o' (fun error => em.firstError? = some error)
          fun o'' => o''.writer.AtMargin := by
  have first := em.firstError?_split split
  refine (em.emitExports_at_margin before margin).imp ?_ ?_
  · intro error problem
    rw [first, problem]
    rfl
  · rintro o' ⟨sound, reached⟩
    refine ⟨reached, (em.emitExport_at_margin e reached).imp ?_ fun _ left => left⟩
    intro error problem
    rw [first, sound, problem]
    rfl

end Emission

namespace Graph

variable (g : Graph) (view : MemberView) (config : Config) (given : List Name)

/-- The writer is at the margin before and after the section of every export that is reached, and a
section that is not completed ends the emission. No emission ends with an error of the writer. -/
theorem sections_at_margin :
    (∀ error, g.emit view config given ≠ .error (.layout error)) ∧
    ∀ before e after, config.emitted given = before ++ e :: after →
      (before.forM (Emission.ofGiven g view config given).emitExport).Ends
        { log := (config.rejections given).toArray }
        (fun error => g.emit view config given = .error error)
        fun o => o.writer.AtMargin ∧
          ((Emission.ofGiven g view config given).emitExport e).Ends o
            (fun error => g.emit view config given = .error error)
            fun o' => o'.writer.AtMargin := by
  constructor
  · intro error failed
    rw [emit_error_iff] at failed
    obtain ⟨-, e, -, -, problem, -⟩ := List.findSome?_eq_some_iff.mp failed
    exact Emission.exportError?_not_layout _ e error problem
  · intro before e after split
    simp only [emit_error_iff]
    exact (Emission.ofGiven g view config given).section_at_margin split ⟨rfl, rfl⟩

theorem library_sections_at_margin :
    ∃ o o', (["lib"].forM (Emission.ofGiven library .direct {} ["lib.Util", "lib"]).emitExport).run
        {} = .ok () o ∧ o.writer.AtMargin ∧
      ((Emission.ofGiven library .direct {} ["lib.Util", "lib"]).emitExport "lib.Util").run o =
        .ok () o' ∧ o'.writer.AtMargin := by
  obtain ⟨text, done⟩ := (library.emit_ok_iff .direct {} ["lib.Util", "lib"]).mpr (by decide)
  have sections := (sections_at_margin library .direct {} ["lib.Util", "lib"]).2
    ["lib"] "lib.Util" [] (by decide)
  have never (error : EmitError) :
      library.emit .direct {} ["lib.Util", "lib"] ≠ .error error := by
    rw [done]
    exact fun failed => nomatch failed
  obtain ⟨o, first, start, second⟩ := sections.succeeds never
  obtain ⟨o', last, left⟩ := second.succeeds never
  exact ⟨o, o', first, start, last, left⟩

end Graph

end Ambient
