import Ambient.Proofs.Sections

namespace Ambient

structure Line where
  depth : Nat
  text : String
  deriving DecidableEq

namespace Line

/-- The indentation comes with the text, so a line without text has none. -/
def written (l : Line) : String :=
  (if l.text = "" then "" else Writer.indentation l.depth ++ l.text) ++ "\n"

def writeAll (lines : List Line) : String := String.join (lines.map written)

@[simp] theorem writeAll_nil : writeAll [] = "" := rfl

@[simp] theorem writeAll_cons (l : Line) (lines : List Line) :
    writeAll (l :: lines) = l.written ++ writeAll lines := by
  simp [writeAll]

@[simp] theorem writeAll_append (lines more : List Line) :
    writeAll (lines ++ more) = writeAll lines ++ writeAll more := by
  simp [writeAll]

end Line

namespace Writer

def withLines (w : Writer) (lines : List Line) : Writer :=
  { w with text := w.text ++ Line.writeAll lines }

@[simp] theorem withLines_depth (w : Writer) (lines : List Line) :
    (w.withLines lines).depth = w.depth := rfl

@[simp] theorem withLines_nil (w : Writer) : w.withLines [] = w := by
  simp [withLines]

@[simp] theorem withLines_withLines (w : Writer) (lines more : List Line) :
    (w.withLines lines).withLines more = w.withLines (lines ++ more) := by
  simp [withLines, String.append_assoc]

theorem withLines_atMargin {w : Writer} (margin : w.AtMargin) (lines : List Line) :
    (w.withLines lines).AtMargin := margin

def Adds (change : Writer → Writer) (lines : Nat → List Line) : Prop :=
  ∀ w, w.atLineStart = true → change w = w.withLines (lines w.depth)

theorem adds_line (piece : String) : Adds (·.line piece) fun depth => [⟨depth, piece⟩] := by
  rintro ⟨text, depth, -⟩ rfl
  by_cases empty : piece = ""
  · simp [line, write, newline, withLines, Line.writeAll, Line.written, empty]
  · simp [line, write, newline, withLines, Line.writeAll, Line.written, empty,
      String.append_assoc]

theorem adds_foldl {α : Type} {put : Writer → α → Writer} {lines : α → Nat → List Line}
    (each : ∀ x, Adds (put · x) (lines x)) (l : List α) :
    Adds (fun w => l.foldl put w) fun depth => l.flatMap (lines · depth) := by
  intro w start
  induction l generalizing w with
  | nil => simp
  | cons x l ih =>
    have first : put w x = w.withLines (lines x w.depth) := each x w start
    have rest := ih (w.withLines (lines x w.depth)) start
    simpa [first] using rest

theorem adds_lines (body : List String) :
    Adds (fun w => body.foldl line w) fun depth => body.map (Line.mk depth) := by
  simp only [List.map_eq_flatMap]
  exact adds_foldl adds_line body

theorem Adds.block {inside : Writer → Writer} {lines : Nat → List Line} (inner : Adds inside lines)
    (header footer : String) :
    Adds (fun w => w.block header inside footer) fun depth =>
      ⟨depth, header⟩ :: lines (depth + 1) ++ [⟨depth, footer⟩] := by
  intro w start
  have opened : w.line header = w.withLines [⟨w.depth, header⟩] := adds_line header w start
  have filled := inner (w.openBlock header) rfl
  have closed := adds_line footer
    ((w.withLines [⟨w.depth, header⟩]).withLines (lines (w.depth + 1))) start
  change { inside (w.openBlock header) with depth := w.depth }.line footer = _
  rw [filled, openBlock_depth, openBlock, opened]
  apply closed.trans
  simp [withLines, String.append_assoc]

end Writer

namespace Item

def lines (depth : Nat) : Item → List Line
  | line text => [⟨depth, text⟩]
  | block header [] terminator => [⟨depth, header ++ " \x7b\x7d" ++ terminator⟩]
  | block header body terminator =>
    ⟨depth, header ++ " \x7b"⟩ :: body.map (Line.mk (depth + 1)) ++
      [⟨depth, "\x7d" ++ terminator⟩]

theorem put_adds (item : Item) : Writer.Adds item.put (item.lines ·) := by
  cases item with
  | line text => exact Writer.adds_line text
  | block header body terminator =>
    cases body with
    | nil => exact Writer.adds_line _
    | cons piece body =>
      exact (Writer.adds_lines (piece :: body)).block (header ++ " \x7b") ("\x7d" ++ terminator)

theorem putAll_adds (items : List Item) :
    Writer.Adds (putAll items) fun depth => items.flatMap (lines depth) :=
  Writer.adds_foldl (fun item => item.put_adds) items

end Item

def Declaration.lines (d : Declaration) : List Line := d.items.flatMap (Item.lines 1)

namespace Section

variable (c : Config) (s : Section)

def namespaceLines : List Line :=
  ⟨0, c.namespaceHeader s.namespaceName⟩ :: s.declarations.flatMap Declaration.lines ++
    [⟨0, "\x7d"⟩]

def moduleLines : List Line :=
  ⟨0, c.moduleHeader s.exportName⟩ ::
    (c.moduleLines s.exportName s.isDefault).map (Line.mk 1) ++ [⟨0, "\x7d"⟩]

def lines : List Line := s.namespaceLines c ++ s.moduleLines c

theorem putNamespace_lines {w : Writer} (margin : w.AtMargin) :
    s.putNamespace c w = w.withLines (s.namespaceLines c) := by
  obtain ⟨level, start⟩ := margin
  have inner := Item.putAll_adds (s.declarations.flatMap (·.items))
  simp only [List.flatMap_assoc] at inner
  have whole := inner.block (c.namespaceHeader s.namespaceName) "\x7d" w start
  rwa [level] at whole

theorem putModule_lines {w : Writer} (margin : w.AtMargin) :
    s.putModule c w = w.withLines (s.moduleLines c) := by
  obtain ⟨level, start⟩ := margin
  have inner := Writer.adds_lines (c.moduleLines s.exportName s.isDefault)
  have whole := inner.block (c.moduleHeader s.exportName) "\x7d" w start
  rwa [level] at whole

theorem put_lines {w : Writer} (margin : w.AtMargin) :
    s.put c w = w.withLines (s.lines c) := by
  have between := Writer.withLines_atMargin margin (s.namespaceLines c)
  rw [put, putNamespace_lines c s margin, putModule_lines c s between]
  simp [lines]

theorem foldl_put_lines (sections : List Section) {w : Writer} (margin : w.AtMargin) :
    sections.foldl (put c) w = w.withLines (sections.flatMap (lines c)) := by
  induction sections generalizing w with
  | nil => simp
  | cons s sections ih =>
    have rest := ih (Writer.withLines_atMargin margin (s.lines c))
    rw [List.foldl_cons, put_lines c s margin, rest]
    simp

end Section

namespace Emission

variable (em : Emission)

theorem document_of_lines {sections : List Section} (found : em.sections = .ok sections) :
    em.document = .ok (Line.writeAll (sections.flatMap (Section.lines em.config))) := by
  have put := Section.foldl_put_lines em.config sections (w := {}) ⟨rfl, rfl⟩
  rw [document, found]
  simp [Except.map, put, Writer.withLines]

end Emission

end Ambient
