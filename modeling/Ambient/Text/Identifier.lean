import Ambient.Text.Alphabetic
import Ambient.Text.Numeric

namespace Ambient.Text

def startsIdentifier (c : Char) : Bool := isAlphabetic c || c == '_' || c == '$'

def continuesIdentifier (c : Char) : Bool := startsIdentifier c || isNumeric c

def isIdentifier (s : String) : Bool :=
  match s.toList with
  | [] => false
  | c :: cs => startsIdentifier c && cs.all continuesIdentifier

end Ambient.Text
