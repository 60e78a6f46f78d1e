import Ambient.Proofs.Layout

/-!
Any actions on a writer, in any order. A page keeps what they write line by line, each piece with
the depth that it came at, and has no cursor: what a line looks like is only said when all its
pieces are there. A writer always shows its page. An action that fails is a closing at the margin,
and it counts for nothing.
-/
namespace Ambient.Writer

inductive Action where
  | write (piece : String)
  | newline
  | line (piece : String)
  | indent
  | dedent
  | openBlock (header : String)
  | closeBlock (footer : String)

namespace Action

def perform : Action → Layout Unit
  | write piece => modify (·.write piece)
  | newline => modify (·.newline)
  | line piece => modify (·.line piece)
  | indent => modify (·.indent)
  | dedent => Writer.dedent
  | openBlock header => modify (·.openBlock header)
  | closeBlock footer => Writer.closeBlock footer

def opens : Action → Bool
  | indent | openBlock _ => true
  | write _ | newline | line _ | dedent | closeBlock _ => false

def closes : Action → Bool
  | dedent | closeBlock _ => true
  | write _ | newline | line _ | indent | openBlock _ => false

end Action

/-- The writer as an action leaves it, whether it fails or not. -/
def after (w : Writer) (a : Action) : Writer :=
  match a.perform.run w with
  | .ok _ w' | .error _ w' => w'

def run (w : Writer) (as : List Action) : Writer := as.foldl after w

/-- The actions that do not fail when all are done in turn. -/
def succeeded (w : Writer) : List Action → List Action
  | [] => []
  | a :: as =>
    match a.perform.run w with
    | .ok _ w' => a :: succeeded w' as
    | .error _ w' => succeeded w' as

/-- The pieces that are written on a line, each with the depth that it came at. -/
abbrev Row := List (Nat × String)

namespace Row

def IsBlank (row : Row) : Prop := ∀ written ∈ row, written.2 = ""

/-- Two spaces for each level of the first piece that has text, and all pieces; nothing at all if
none has text. -/
def text (row : Row) : String :=
  match row.find? (·.2 ≠ "") with
  | none => ""
  | some (depth, _) => String.join (List.replicate depth "  ") ++ String.join (row.map (·.2))

end Row

structure Page where
  depth : Nat := 0
  /-- The lines that are ended. -/
  ended : List Row := []
  current : Row := []

namespace Page

def text (p : Page) : String :=
  String.join (p.ended.map fun row => row.text ++ "\n") ++ p.current.text

def put (p : Page) (piece : String) : Page :=
  { p with current := p.current ++ [(p.depth, piece)] }

def endLine (p : Page) : Page := { p with ended := p.ended ++ [p.current], current := [] }

def deeper (p : Page) : Page := { p with depth := p.depth + 1 }

def back (p : Page) : Page := { p with depth := p.depth - 1 }

/-- The page after an action. A closing at the margin has no effect. -/
def after (p : Page) : Action → Page
  | .write piece => p.put piece
  | .newline => p.endLine
  | .line piece => (p.put piece).endLine
  | .indent => p.deeper
  | .dedent => if p.depth = 0 then p else p.back
  | .openBlock header => (p.put header).endLine.deeper
  | .closeBlock footer => if p.depth = 0 then p else (p.back.put footer).endLine

end Page

def page (as : List Action) : Page := as.foldl Page.after {}

theorem indentation_eq (depth : Nat) :
    indentation depth = String.join (List.replicate depth "  ") := by
  induction depth with
  | zero => rfl
  | succ depth ih => rw [indentation, ih, List.replicate_succ, String.join_cons]

namespace Row

theorem find?_eq_none_iff (row : Row) : row.find? (·.2 ≠ "") = none ↔ row.IsBlank := by
  simp [IsBlank]

theorem text_of_blank {row : Row} (blank : row.IsBlank) : row.text = "" := by
  rw [text, row.find?_eq_none_iff.mpr blank]

theorem join_of_blank {row : Row} (blank : row.IsBlank) : String.join (row.map (·.2)) = "" := by
  induction row with
  | nil => rfl
  | cons written row ih =>
    obtain ⟨here, rest⟩ := List.forall_mem_cons.mp blank
    rw [List.map_cons, String.join_cons, here, ih rest]
    rfl

theorem isBlank_append_iff (row : Row) (depth : Nat) (piece : String) :
    IsBlank (row ++ [(depth, piece)]) ↔ row.IsBlank ∧ piece = "" := by
  simp [IsBlank, or_imp, forall_and]

theorem text_first {row : Row} (blank : row.IsBlank) (depth : Nat) {piece : String}
    (filled : piece ≠ "") : text (row ++ [(depth, piece)]) = indentation depth ++ piece := by
  have first : (row ++ [(depth, piece)]).find? (·.2 ≠ "") = some (depth, piece) := by
    rw [List.find?_append, row.find?_eq_none_iff.mpr blank]
    simp [filled]
  rw [text, first, indentation_eq, List.map_append, String.join_append, join_of_blank blank]
  simp

theorem text_later (row : Row) (depth : Nat) {piece : String}
    (later : ¬ row.IsBlank ∨ piece = "") : text (row ++ [(depth, piece)]) = row.text ++ piece := by
  cases found : row.find? (·.2 ≠ "") with
  | none =>
    have blank := row.find?_eq_none_iff.mp found
    obtain rfl := later.resolve_left fun marked => marked blank
    rw [text_of_blank blank, text_of_blank ((row.isBlank_append_iff depth "").mpr ⟨blank, rfl⟩)]
    rfl
  | some first =>
    rw [text, text, List.find?_append, found]
    simp [String.join_append, String.append_assoc]

end Row

/-- A writer has the text of the page, and its cursor tells whether the current line is blank. -/
structure Shows (w : Writer) (p : Page) : Prop where
  depth : w.depth = p.depth
  text : w.text = p.text
  start : w.atLineStart = true ↔ p.current.IsBlank

namespace Shows

variable {w : Writer} {p : Page}

theorem fresh : Shows {} {} := ⟨rfl, rfl, iff_of_true rfl nofun⟩

theorem of_row (same : Shows w p) {piece added : String} (start : Bool)
    (row : Row.text (p.current ++ [(p.depth, piece)]) = p.current.text ++ added)
    (cursor : start = true ↔ w.atLineStart = true ∧ piece = "") :
    Shows { w with text := w.text ++ added, atLineStart := start } (p.put piece) := by
  refine ⟨same.depth, ?_, ?_⟩
  · simp [Page.text, Page.put, row, same.text, String.append_assoc]
  · rw [cursor, same.start]
    exact (p.current.isBlank_append_iff p.depth piece).symm

theorem put (same : Shows w p) (piece : String) : Shows (w.write piece) (p.put piece) := by
  by_cases empty : piece = ""
  · subst empty
    have row := p.current.text_later p.depth (.inr rfl)
    simpa [write] using same.of_row w.atLineStart row (and_iff_left rfl).symm
  cases start : w.atLineStart with
  | true =>
    have blank := same.start.mp start
    have row : Row.text (p.current ++ [(p.depth, piece)]) =
        p.current.text ++ (indentation w.depth ++ piece) := by
      rw [Row.text_first blank p.depth empty, Row.text_of_blank blank, same.depth,
        String.empty_append]
    have first := same.of_row false row (by simp [empty])
    simpa [write, empty, start, String.append_assoc] using first
  | false =>
    have marked : ¬ p.current.IsBlank := fun blank => by
      simp [same.start.mpr blank] at start
    have row : Row.text (p.current ++ [(p.depth, piece)]) = p.current.text ++ piece :=
      p.current.text_later p.depth (.inl marked)
    have later := same.of_row false row (by simp [empty])
    simpa [write, empty, start] using later

theorem endLine (same : Shows w p) : Shows w.newline p.endLine := by
  refine ⟨same.depth, ?_, iff_of_true rfl nofun⟩
  simp [newline, Page.endLine, Page.text, same.text, String.append_assoc, Row.text]

theorem deeper (same : Shows w p) : Shows w.indent p.deeper :=
  ⟨congrArg (· + 1) same.depth, same.text, same.start⟩

theorem back (same : Shows w p) : Shows { w with depth := w.depth - 1 } p.back :=
  ⟨congrArg (· - 1) same.depth, same.text, same.start⟩

end Shows

theorem dedent_run (w : Writer) :
    dedent.run w = if w.depth = 0 then .error .indentUnderflow w
      else .ok () { w with depth := w.depth - 1 } := by
  obtain ⟨text, depth, atLineStart⟩ := w
  cases depth <;> rfl

theorem closeBlock_run (w : Writer) (footer : String) :
    (closeBlock footer).run w = if w.depth = 0 then .error .indentUnderflow w
      else .ok () (line { w with depth := w.depth - 1 } footer) := by
  rw [closeBlock, EStateM.run_bind, dedent_run]
  by_cases margin : w.depth = 0
  · rw [if_pos margin, if_pos margin]
  · rw [if_neg margin, if_neg margin]
    rfl

/-- A closing fails at the margin and leaves the writer as it was, and nothing else fails. -/
theorem perform_eq_error_iff (w w' : Writer) (a : Action) (error : LayoutError) :
    a.perform.run w = .error error w' ↔
      a.closes = true ∧ w.depth = 0 ∧ error = .indentUnderflow ∧ w' = w := by
  cases a with
  | dedent | closeBlock footer =>
    simp only [Action.perform, Action.closes, dedent_run, closeBlock_run]
    split <;> simp [*, eq_comm]
  | _ => exact iff_of_false nofun nofun

theorem after_of_failed {w w' : Writer} {a : Action} {error : LayoutError}
    (failed : a.perform.run w = .error error w') : w.after a = w := by
  obtain ⟨-, -, -, rfl⟩ := (perform_eq_error_iff w w' a error).mp failed
  rw [after, failed]

theorem Shows.after {w : Writer} {p : Page} (same : Shows w p) (a : Action) :
    Shows (w.after a) (p.after a) := by
  cases a with
  | write piece => exact same.put piece
  | newline => exact same.endLine
  | line piece => exact (same.put piece).endLine
  | indent => exact same.deeper
  | openBlock header => exact (same.put header).endLine.deeper
  | dedent =>
    rw [Writer.after, Action.perform, dedent_run, Page.after, ← same.depth]
    by_cases margin : w.depth = 0
    · rwa [if_pos margin, if_pos margin]
    · rw [if_neg margin, if_neg margin]
      exact same.back
  | closeBlock footer =>
    rw [Writer.after, Action.perform, closeBlock_run, Page.after, ← same.depth]
    by_cases margin : w.depth = 0
    · rwa [if_pos margin, if_pos margin]
    · rw [if_neg margin, if_neg margin]
      exact (same.back.put footer).endLine

/-- Any actions keep them together, by induction on the actions. -/
theorem Shows.run {w : Writer} {p : Page} (same : Shows w p) (as : List Action) :
    Shows (w.run as) (as.foldl Page.after p) := by
  induction as generalizing w p with
  | nil => exact same
  | cons a as ih => exact ih (same.after a)

theorem depth_perform {w w' : Writer} {a : Action} (done : a.perform.run w = .ok () w') :
    w'.depth + (if a.closes then 1 else 0) = w.depth + (if a.opens then 1 else 0) := by
  cases a with
  | dedent | closeBlock footer =>
    simp only [Action.perform, dedent_run, closeBlock_run] at done
    split at done
    · contradiction
    · cases done
      simp [Action.closes, Action.opens]
      omega
  | _ =>
    cases done
    simp [Action.closes, Action.opens, newline, indent]

theorem depth_run (w : Writer) (as : List Action) :
    (w.run as).depth + (w.succeeded as).countP Action.closes =
      w.depth + as.countP Action.opens := by
  induction as generalizing w with
  | nil => rfl
  | cons a as ih =>
    rw [run, List.foldl_cons, ← run, after, succeeded, List.countP_cons]
    cases done : a.perform.run w with
    | ok _ w' =>
      have step := depth_perform done
      have rest := ih w'
      simp only [List.countP_cons]
      omega
    | error error w' =>
      obtain ⟨closes, -, -, rfl⟩ := (perform_eq_error_iff w w' a error).mp done
      have closing : a.opens = false := by
        cases a with
        | dedent | closeBlock _ => rfl
        | _ => contradiction
      simpa [closing] using ih w'

/-- Whatever is done to a fresh writer, it shows the page that the actions fill: its depth counts
the openings and the closings that did not fail and is the depth of the page, and its text is that
of the lines of the page. A closing fails at the margin and leaves the writer as it was, no other
action fails, and the writer can be finished at the margin only. -/
theorem run_shows_page (as : List Action) :
    (run {} as).depth + (succeeded {} as).countP Action.closes = as.countP Action.opens ∧
      (∀ (a : Action) error w, a.perform.run (run {} as) = .error error w ↔
        a.closes = true ∧ (run {} as).depth = 0 ∧ error = .indentUnderflow ∧ w = run {} as) ∧
      (∀ (a : Action) error w, a.perform.run (run {} as) = .error error w →
        run {} (as ++ [a]) = run {} as) ∧
      (run {} as).depth = (page as).depth ∧
      (run {} as).text = (page as).text ∧
      (run {} as).finish =
        if (run {} as).depth = 0 then .ok (page as).text
        else .error (.unbalancedIndent (run {} as).depth) := by
  have same : Shows (run {} as) (page as) := Shows.fresh.run as
  refine ⟨?_, ?_, ?_, same.depth, same.text, ?_⟩
  · simpa using depth_run {} as
  · exact fun a error w => perform_eq_error_iff (run {} as) w a error
  · intro a error w failed
    rw [run, List.foldl_append]
    exact after_of_failed failed
  · rw [finish, same.text]

/-- An empty piece before a deeper one, a piece after its line went back, a line without text, and a
closing too many. -/
def strokes : List Action :=
  [.openBlock "\x7b", .write "", .indent, .write "x", .dedent, .write ": y", .newline, .newline,
    .closeBlock "\x7d", .closeBlock "lost"]

theorem strokes_show_page :
    Action.dedent.perform.run (run {} strokes) = .error .indentUnderflow (run {} strokes) ∧
      run {} (strokes ++ [.dedent]) = run {} strokes ∧
      (run {} strokes).text = "\x7b\n    x: y\n\n\x7d\n" := by
  obtain ⟨-, fails, unchanged, -, shown, -⟩ := run_shows_page strokes
  have failed := (fails .dedent .indentUnderflow (run {} strokes)).mpr (by decide)
  exact ⟨failed, unchanged .dedent .indentUnderflow _ failed, shown.trans (by decide)⟩

end Ambient.Writer
