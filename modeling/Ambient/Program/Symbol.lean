import Ambient.Ty.Classify

namespace Ambient

structure Symbol where
  name : Name
  type? : Option Ty := none

namespace Symbol

def namespaceName (s : Symbol) : Name := s.name.parent

def unqualifiedName (s : Symbol) : String := s.name.lastSegment

def isPrototypeMethod (s : Symbol) : Bool :=
  match s.type? with
  | some (.function f) => f.hasBoundReceiver
  | _ => false

end Symbol

end Ambient
