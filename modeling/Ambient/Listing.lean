import Ambient.Emission.Placement

namespace Ambient

namespace PlacedExport

def listingNamespace (p : PlacedExport) : String :=
  if p.namespaceName = "" then "<global>" else p.namespaceName

def listingLine (p : PlacedExport) : String :=
  p.name ++ "\t" ++ p.listingNamespace ++ "\t"
    ++ (if p.isDefault then "default" else "namespace") ++ "\n"

end PlacedExport

namespace Graph

def placedExports (g : Graph) : Except EmitError (List PlacedExport) :=
  g.exports.names.mapM g.place

def listing (g : Graph) : Except EmitError String :=
  g.placedExports.map fun placed => String.join (placed.map (·.listingLine))

end Graph

end Ambient
