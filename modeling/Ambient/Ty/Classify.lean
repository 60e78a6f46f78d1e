import Ambient.Ty.Basic

namespace Ambient

namespace FunctionType

/-- Whether the function is bound to a known receiver, which makes it a method. -/
def hasBoundReceiver (f : FunctionType Ty) : Bool :=
  match f.receiver? with
  | none | some (.primitive .unknown) => false
  | some _ => true

end FunctionType

namespace Ty

mutual

/-- Whether all values of the type are objects; a union needs an alternate and all of them. -/
def isObject : Ty → Bool
  | .primitive p => p = .noObject
  | .union [] => false
  | .union (t :: ts) => isObject t && allObjects ts
  | .templateVar _ | .enumElement _ => false
  | .named _ | .templatized .. | .record _ | .enumeration _ | .function _ | .classlike _
  | .prototype _ => true

def allObjects : List Ty → Bool
  | [] => true
  | t :: ts => isObject t && allObjects ts

end

def isFunction : Ty → Bool
  | .function _ | .classlike _ => true
  | _ => false

def isInterface : Ty → Bool
  | .classlike c => c.kind = .interface
  | _ => false

def isConstructor : Ty → Bool
  | .classlike c => c.kind = .constructor
  | _ => false

def isEnum : Ty → Bool
  | .enumeration _ => true
  | _ => false

def isPrototype : Ty → Bool
  | .prototype _ => true
  | _ => false

def isAnyLike : Ty → Bool
  | .primitive p => p.isAnyLike
  | _ => false

def isNone : Ty → Bool
  | .primitive .none => true
  | _ => false

def isAbsence : Ty → Bool
  | .primitive p => p.isAbsence
  | _ => false

/-- Whether an export of the type occupies its slot alone. Non-objects, interfaces, enums and
functions do; any other object is exported as the namespace of its children. -/
def isDefaultExport (t : Ty) : Bool :=
  !t.isObject || t.isInterface || t.isEnum || t.isFunction

end Ty

end Ambient
