namespace Ambient

inductive Fault where
  | endOfText
  | malformed
  /-- The text is JSON so far, but not of the shape of a dump. -/
  | shape
  deriving DecidableEq

def Fault.message : Fault → String
  | .endOfText => "the text ends too early"
  | .malformed => "the text is not JSON"
  | .shape => "the text is not of the shape of a dump"

end Ambient
