import Ambient.Layout.Item

namespace Ambient

def Writer.block (w : Writer) (header : String) (inside : Writer → Writer) (footer : String) :
    Writer :=
  { inside (w.openBlock header) with depth := w.depth }.line footer

namespace Item

def put (w : Writer) : Item → Writer
  | line text => w.line text
  | block header [] terminator => w.line (header ++ " \x7b\x7d" ++ terminator)
  | block header body terminator =>
    w.block (header ++ " \x7b") (fun w => body.foldl Writer.line w) ("\x7d" ++ terminator)

def putAll (items : List Item) (w : Writer) : Writer := items.foldl put w

end Item

end Ambient
