import Ambient.Layout.Block

namespace Ambient

namespace Writer

@[simp] theorem write_depth (w : Writer) (piece : String) : (w.write piece).depth = w.depth := by
  unfold write
  split
  · rfl
  · split <;> rfl

@[simp] theorem line_depth (w : Writer) (piece : String) : (w.line piece).depth = w.depth :=
  write_depth w piece

@[simp] theorem openBlock_depth (w : Writer) (header : String) :
    (w.openBlock header).depth = w.depth + 1 :=
  congrArg (· + 1) (line_depth w header)

theorem foldl_line_depth (w : Writer) (body : List String) :
    (body.foldl line w).depth = w.depth := by
  induction body generalizing w with
  | nil => rfl
  | cons text body ih => rw [List.foldl_cons, ih, line_depth]

@[simp] theorem block_depth (w : Writer) (header : String) (inside : Writer → Writer)
    (footer : String) : (w.block header inside footer).depth = w.depth :=
  line_depth _ footer

@[simp] theorem block_atLineStart (w : Writer) (header : String) (inside : Writer → Writer)
    (footer : String) : (w.block header inside footer).atLineStart = true := rfl

theorem closeBlock_inside (w : Writer) (header footer : String) (inside : Writer → Writer)
    (level : ∀ v, (inside v).depth = v.depth) :
    (closeBlock footer).run (inside (w.openBlock header)) =
      .ok () (w.block header inside footer) := by
  have deeper : (inside (w.openBlock header)).depth = w.depth + 1 := by
    rw [level, openBlock_depth]
  have back : dedent.run (inside (w.openBlock header)) =
      .ok () { inside (w.openBlock header) with depth := w.depth } := by
    simp only [EStateM.run, dedent, deeper]
  rw [closeBlock, EStateM.run_bind, back]
  rfl

theorem line_text (w : Writer) (piece : String) : ∃ more, (w.line piece).text = w.text ++ more := by
  unfold line write
  split
  · exact ⟨"\n", rfl⟩
  · split
    · exact ⟨_, by simp only [newline, String.append_assoc]; rfl⟩
    · exact ⟨_, by simp only [newline, String.append_assoc]; rfl⟩

theorem foldl_line_text (body : List String) (w : Writer) :
    ∃ more, (body.foldl line w).text = w.text ++ more := by
  induction body generalizing w with
  | nil => exact ⟨"", String.append_empty.symm⟩
  | cons piece body ih =>
    obtain ⟨more, first⟩ := w.line_text piece
    obtain ⟨others, rest⟩ := ih (w.line piece)
    exact ⟨more ++ others, by rw [List.foldl_cons, rest, first, String.append_assoc]⟩

theorem block_text (w : Writer) (header footer : String) {inside : Writer → Writer}
    (grows : ∀ v, ∃ more, (inside v).text = v.text ++ more) :
    ∃ more, (w.block header inside footer).text = (w.line header).text ++ more := by
  obtain ⟨inner, filled⟩ := grows (w.openBlock header)
  obtain ⟨last, closed⟩ := line_text { inside (w.openBlock header) with depth := w.depth } footer
  refine ⟨inner ++ last, ?_⟩
  calc (w.block header inside footer).text
      = (inside (w.openBlock header)).text ++ last := closed
    _ = (w.line header).text ++ (inner ++ last) := by
      rw [filled, String.append_assoc]
      rfl

theorem line_fresh (piece : String) : (({} : Writer).line piece).text = piece ++ "\n" := by
  unfold line write
  split
  · next empty => rw [empty]; rfl
  · simp [newline, indentation]

end Writer

namespace Item

theorem put_depth (w : Writer) (item : Item) : (item.put w).depth = w.depth := by
  cases item with
  | line text => exact Writer.line_depth w text
  | block header body terminator =>
    cases body with
    | nil => exact Writer.line_depth w _
    | cons text body => exact Writer.block_depth w _ _ _

theorem write_eq_put (w : Writer) (item : Item) : item.write.run w = .ok () (item.put w) := by
  cases item with
  | line text => rfl
  | block header body terminator =>
    cases body with
    | nil => rfl
    | cons text body =>
      exact w.closeBlock_inside _ _ (fun v => (text :: body).foldl Writer.line v)
        fun v => Writer.foldl_line_depth v (text :: body)

theorem putAll_nil : putAll [] = fun w => w := rfl

theorem putAll_cons (item : Item) (items : List Item) :
    putAll (item :: items) = fun w => putAll items (item.put w) := rfl

@[simp] theorem putAll_depth (items : List Item) (w : Writer) :
    (putAll items w).depth = w.depth := by
  induction items generalizing w with
  | nil => rfl
  | cons item items ih => exact (ih (item.put w)).trans (put_depth w item)

theorem put_text (w : Writer) (item : Item) : ∃ more, (item.put w).text = w.text ++ more := by
  cases item with
  | line text => exact w.line_text text
  | block header body terminator =>
    cases body with
    | nil => exact w.line_text _
    | cons text body =>
      obtain ⟨first, opened⟩ := w.line_text (header ++ " \x7b")
      obtain ⟨rest, written⟩ := w.block_text (header ++ " \x7b") ("\x7d" ++ terminator)
        (Writer.foldl_line_text (text :: body))
      exact ⟨first ++ rest, by rw [← String.append_assoc, ← opened]; exact written⟩

theorem putAll_text (items : List Item) (w : Writer) :
    ∃ more, (putAll items w).text = w.text ++ more := by
  induction items generalizing w with
  | nil => exact ⟨"", String.append_empty.symm⟩
  | cons item items ih =>
    obtain ⟨first, here⟩ := item.put_text w
    obtain ⟨rest, later⟩ := ih (item.put w)
    exact ⟨first ++ rest, by rw [putAll_cons, later, here, String.append_assoc]⟩

def opening : Item → String
  | line text => text
  | block header _ _ => header ++ " \x7b"

end Item

end Ambient
