import Ambient.Emission.Log
import Ambient.Emission.Step
import Ambient.Proofs.Layout

/-!
What steps do, as data: the value they give, the events they log and the change they make to the
layout, or the error they end with. The rules here compose these facts along binds and loops, so the
steps of an emission are not run again by any later proof.
-/
namespace Ambient.Step

variable {α β : Type}

/-- From every output, the step gives the value, logs the events and changes the layout. -/
def Performs (p : Step α) (value : α) (events : List Event) (change : Writer → Writer) : Prop :=
  ∀ o, p.run o = .ok value ⟨change o.writer, o.log ++ events.toArray⟩

/-- From every output, the step fails after these events. What it wrote is lost with it. -/
def Fails (p : Step α) (error : EmitError) (events : List Event) : Prop :=
  ∀ o, ∃ writer, p.run o = .error error ⟨writer, o.log ++ events.toArray⟩

/-- A step without a value that fails exactly if there is an error. -/
def Does (p : Step Unit) (error? : Option EmitError) (events : List Event)
    (change : Writer → Writer) : Prop :=
  match error? with
  | none => p.Performs () events change
  | some error => p.Fails error events

theorem performs_pure (value : α) : Performs (pure value) value [] id := by
  intro o
  simp [EStateM.run_pure]

theorem performs_log (event : Event) : Performs (log event) () [event] id := by
  intro o
  have pushed : o.log.push event = o.log ++ #[event] := Array.push_eq_append
  exact congrArg (fun log => EStateM.Result.ok () (Output.mk o.writer log)) pushed

theorem performs_write (item : Item) : Performs (write item) () [] item.put := by
  intro o
  have written : item.write o.writer = .ok () (item.put o.writer) := item.write_eq_put o.writer
  simp [write, layout, EStateM.run, written]

theorem performs_openBlock (header : String) :
    Performs (openBlock header) () [] fun w => w.openBlock header := by
  intro o
  have same : o.log ++ #[] = o.log := Array.append_empty
  exact congrArg (fun log => EStateM.Result.ok () (Output.mk (o.writer.openBlock header) log))
    same.symm

theorem closeBlock_run (o : Output) {footer : String} {w : Writer}
    (closed : (Writer.closeBlock footer).run o.writer = .ok () w) :
    (closeBlock footer).run o = .ok () { o with writer := w } := by
  change Writer.closeBlock footer o.writer = .ok () w at closed
  simp [closeBlock, layout, EStateM.run, closed]

theorem fails_throw (error : EmitError) : Fails (throw error : Step α) error [] := by
  intro o
  have same : o.log ++ #[] = o.log := Array.append_empty
  exact ⟨o.writer, congrArg (fun log => EStateM.Result.error error (Output.mk o.writer log))
    same.symm⟩

theorem Performs.bind {p : Step α} {k : α → Step β} {a : α} {b : β} {events more : List Event}
    {change next : Writer → Writer} (first : p.Performs a events change)
    (second : (k a).Performs b more next) :
    (p >>= k).Performs b (events ++ more) fun w => next (change w) := by
  intro o
  simp [EStateM.run_bind, first o, second _]

theorem Performs.bind_fails {p : Step α} {k : α → Step β} {a : α} {events more : List Event}
    {change : Writer → Writer} {error : EmitError} (first : p.Performs a events change)
    (second : (k a).Fails error more) : (p >>= k).Fails error (events ++ more) := by
  intro o
  obtain ⟨writer, run⟩ := second ⟨change o.writer, o.log ++ events.toArray⟩
  exact ⟨writer, by simp [EStateM.run_bind, first o, run]⟩

theorem Fails.bind {p : Step α} {k : α → Step β} {error : EmitError} {events : List Event}
    (first : p.Fails error events) : (p >>= k).Fails error events := by
  intro o
  obtain ⟨writer, run⟩ := first o
  exact ⟨writer, by simp [EStateM.run_bind, run]⟩

theorem Performs.bind_does {p : Step α} {k : α → Step Unit} {a : α} {events more : List Event}
    {change next : Writer → Writer} {error? : Option EmitError}
    (first : p.Performs a events change) (second : (k a).Does error? more next) :
    (p >>= k).Does error? (events ++ more) fun w => next (change w) := by
  cases error? with
  | none => exact first.bind second
  | some error => exact first.bind_fails second

theorem Fails.seq {p : Step Unit} {q : Step β} {error : EmitError} {events : List Event}
    (first : p.Fails error events) : (p >>= fun _ => q).Fails error events :=
  first.bind

theorem Performs.seq {p : Step Unit} {q : Step β} {b : β} {events more : List Event}
    {change next : Writer → Writer} (first : p.Performs () events change)
    (second : q.Performs b more next) :
    (p >>= fun _ => q).Performs b (events ++ more) fun w => next (change w) :=
  first.bind second

theorem Performs.seq_fails {p : Step Unit} {q : Step β} {events more : List Event}
    {change : Writer → Writer} {error : EmitError} (first : p.Performs () events change)
    (second : q.Fails error more) : (p >>= fun _ => q).Fails error (events ++ more) :=
  first.bind_fails second

theorem Performs.seq_does {p q : Step Unit} {events more : List Event}
    {change next : Writer → Writer} {error? : Option EmitError}
    (first : p.Performs () events change) (second : q.Does error? more next) :
    (p >>= fun _ => q).Does error? (events ++ more) fun w => next (change w) :=
  first.bind_does second

theorem Performs.map {p : Step α} {a : α} {events : List Event} {change : Writer → Writer}
    (f : α → β) (performs : p.Performs a events change) :
    (f <$> p).Performs (f a) events change := by
  intro o
  rw [map_eq_pure_bind, EStateM.run_bind, performs o]
  rfl

theorem performs_filterMapM {l : List α} {p : α → Step (Option β)} {value : α → Option β}
    {event? : α → Option Event}
    (each : ∀ x ∈ l, (p x).Performs (value x) (event? x).toList id) :
    (l.filterMapM p).Performs (l.filterMap value) (l.filterMap event?) id := by
  induction l with
  | nil => exact performs_pure []
  | cons x l ih =>
    have rest := ih fun y hy => each y (List.mem_cons_of_mem x hy)
    have head := each x List.mem_cons_self
    have events : (event? x).toList ++ l.filterMap event? = (x :: l).filterMap event? := by
      cases he : event? x <;> simp [he]
    rw [List.filterMapM_cons, ← events]
    cases hv : value x with
    | none =>
      rw [hv] at head
      rw [List.filterMap_cons_none hv]
      exact head.bind rest
    | some v =>
      rw [hv] at head
      rw [List.filterMap_cons_some hv]
      exact head.bind (rest.map (v :: ·))

theorem performs_forM {l : List α} {p : α → Step Unit} {change : α → Writer → Writer}
    (each : ∀ x ∈ l, (p x).Performs () [] (change x)) :
    (l.forM p).Performs () [] fun w => l.foldl (fun w x => change x w) w := by
  induction l with
  | nil => exact performs_pure ()
  | cons x l ih =>
    have rest := ih fun y hy => each y (List.mem_cons_of_mem x hy)
    exact (each x List.mem_cons_self).seq rest

theorem does_forM {l : List α} {p : α → Step Unit} {error? : α → Option EmitError}
    {events : α → List Event} {change : α → Writer → Writer}
    (each : ∀ x ∈ l, (p x).Does (error? x) (events x) (change x)) :
    (l.forM p).Does (l.findSome? error?)
      ((throughFirst (fun x => (error? x).isSome) l).flatMap events)
      fun w => l.foldl (fun w x => change x w) w := by
  induction l with
  | nil => exact performs_pure ()
  | cons x l ih =>
    have rest := ih fun y hy => each y (List.mem_cons_of_mem x hy)
    have head := each x List.mem_cons_self
    cases he : error? x with
    | none =>
      rw [he] at head
      simpa [throughFirst, he] using Performs.seq_does head rest
    | some error =>
      rw [he] at head
      simpa [Does, throughFirst, he] using Fails.seq (q := l.forM p) head

theorem Does.block {p : Step Unit} {error? : Option EmitError} {events : List Event}
    {inside : Writer → Writer} (does : p.Does error? events inside)
    (level : ∀ w, (inside w).depth = w.depth) (header footer : String) :
    (do openBlock header; p; closeBlock footer : Step Unit).Does error? events
      fun w => w.block header inside footer := by
  have opened := performs_openBlock header
  cases error? with
  | some error => exact opened.seq_fails does.bind
  | none =>
    -- the closing succeeds only after this very opening, so it performs nothing on its own
    intro o
    have inner := does ⟨o.writer.openBlock header, o.log⟩
    have closed := Writer.closeBlock_inside o.writer header footer inside level
    have last := closeBlock_run ⟨inside (o.writer.openBlock header), o.log ++ events.toArray⟩ closed
    simp [EStateM.run_bind, opened o, inner, last]

end Ambient.Step
