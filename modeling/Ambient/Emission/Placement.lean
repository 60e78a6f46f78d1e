import Ambient.Emission.Error
import Ambient.Program.Graph

namespace Ambient

structure PlacedExport where
  name : Name
  type : Ty

namespace PlacedExport

def isDefault (p : PlacedExport) : Bool := p.type.isDefaultExport

def namespaceName (p : PlacedExport) : Name :=
  if p.isDefault then p.name.parent else p.name

end PlacedExport

def Graph.place (g : Graph) (name : Name) : Except EmitError PlacedExport :=
  match g.resolve? name with
  | none => .error (.unresolvedExport name)
  | some { type? := none, .. } => .error (.untypedSymbol name)
  | some { type? := some type, .. } => .ok { name, type }

end Ambient
