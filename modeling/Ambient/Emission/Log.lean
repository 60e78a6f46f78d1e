import Ambient.Emission.Section

namespace Ambient

def throughFirst {α : Type} (fails : α → Bool) : List α → List α
  | [] => []
  | x :: xs => if fails x then [x] else x :: throughFirst fails xs

namespace Emission

variable (em : Emission)

def siblingError? (ns : Name) (s : Symbol) : Option EmitError :=
  (em.declaredBelow? ns s).bind (declarationError? ns)

def siblingEvents (ns : Name) (s : Symbol) : List Event :=
  match em.sibling ns s with
  | .ok type => em.declarationEvents ns false ⟨s.name, type⟩
  | .error reason => [.skippingSibling s.name reason]

def blockEvents (p : PlacedExport) : List Event :=
  if p.isDefault then em.declarationEvents p.namespaceName true ⟨p.name, p.type⟩
  else
    (throughFirst (fun s => (em.siblingError? p.namespaceName s).isSome)
      (em.graph.childrenOf p.namespaceName)).flatMap (em.siblingEvents p.namespaceName)

def exportEvents (name : Name) : List Event :=
  match em.graph.place name with
  | .ok p => .declaringExport p.name p.namespaceName p.isDefault :: em.blockEvents p
  | .error _ => []

def exportError? (name : Name) : Option EmitError :=
  match em.section? name with
  | .ok _ => none
  | .error error => some error

def events : List Event :=
  (throughFirst (fun name => (em.exportError? name).isSome) em.exports.names).flatMap
    em.exportEvents

end Emission

end Ambient
