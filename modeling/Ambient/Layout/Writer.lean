/-!
Writing of indented text. The indentation of a line is written with its first piece of text, at the
depth of that moment, so a line without text has no blanks either. A change that fails leaves the
writer as it was left when the failure was met.
-/
namespace Ambient

inductive LayoutError where
  | indentUnderflow
  | unbalancedIndent (depth : Nat)
  deriving DecidableEq

def LayoutError.message : LayoutError → String
  | indentUnderflow => "indentation level below zero"
  | unbalancedIndent depth =>
    "indentation must be zero after printing, but is " ++ toString depth

structure Writer where
  text : String := ""
  depth : Nat := 0
  atLineStart : Bool := true
  deriving DecidableEq

/-- What changes a writer and may fail on the way. -/
abbrev Layout := EStateM LayoutError Writer

namespace Writer

def indentation : Nat → String
  | 0 => ""
  | depth + 1 => "  " ++ indentation depth

def write (w : Writer) (piece : String) : Writer :=
  if piece = "" then w
  else if w.atLineStart then
    { w with text := w.text ++ indentation w.depth ++ piece, atLineStart := false }
  else { w with text := w.text ++ piece }

def newline (w : Writer) : Writer := { w with text := w.text ++ "\n", atLineStart := true }

def line (w : Writer) (piece : String) : Writer := (w.write piece).newline

def indent (w : Writer) : Writer := { w with depth := w.depth + 1 }

def dedent : Layout Unit := fun w =>
  match w.depth with
  | 0 => .error .indentUnderflow w
  | depth + 1 => .ok () { w with depth }

def openBlock (w : Writer) (header : String) : Writer := (w.line header).indent

def closeBlock (footer : String) : Layout Unit := do
  dedent
  modify (·.line footer)

def finish (w : Writer) : Except LayoutError String :=
  if w.depth = 0 then .ok w.text else .error (.unbalancedIndent w.depth)

end Writer

end Ambient
