import Ambient.Layout.Writer

namespace Ambient

inductive Item where
  | line (text : String)
  /-- A header, the lines between its braces, and what follows the closing brace. -/
  | block (header : String) (body : List String) (terminator : String)
  deriving DecidableEq

namespace Item

def write : Item → Layout Unit
  | line text => modify (·.line text)
  | block header [] terminator => modify (·.line (header ++ " \x7b\x7d" ++ terminator))
  | block header body terminator => do
    modify (·.openBlock (header ++ " \x7b"))
    modify fun w => body.foldl Writer.line w
    Writer.closeBlock ("\x7d" ++ terminator)

end Item

end Ambient
