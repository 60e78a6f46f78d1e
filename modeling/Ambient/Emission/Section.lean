import Ambient.Emission.Declaration
import Ambient.Emission.Frame

namespace Ambient

structure Section where
  exportName : Name
  namespaceName : Name
  isDefault : Bool
  declarations : List Declaration
  deriving DecidableEq

namespace Emission

variable (em : Emission)

def sectionOf (p : PlacedExport) : Section where
  exportName := p.name
  namespaceName := p.namespaceName
  isDefault := p.isDefault
  declarations := (em.declared p).map (em.declaration p.namespaceName p.isDefault)

def sectionError? (p : PlacedExport) : Option EmitError :=
  (em.declared p).findSome? (declarationError? p.namespaceName)

def section? (name : Name) : Except EmitError Section := do
  let p ← em.graph.place name
  match em.sectionError? p with
  | some error => .error error
  | none => .ok (em.sectionOf p)

end Emission

end Ambient
