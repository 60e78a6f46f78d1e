import Ambient.Emission.Config

namespace Ambient.Config

/-- The header of a namespace block; the global namespace is the internal root itself. -/
def namespaceHeader (c : Config) (ns : Name) : String :=
  let path := if ns = "" then c.internalRoot else c.internalRoot.child ns
  "declare namespace " ++ path ++ " \x7b"

def moduleHeader (c : Config) (exportName : Name) : String :=
  "declare module '" ++ c.modulePrefix ++ ":" ++ exportName ++ "' \x7b"

def target (c : Config) (exportName : Name) : Name := c.internalRoot.child exportName

def moduleLines (c : Config) (exportName : Name) (isDefault : Bool) : List String :=
  let keyword := if isDefault then "export default " else "export = "
  match c.policy.shim with
  | .alias => ["import alias = " ++ c.target exportName ++ ";", keyword ++ "alias;"]
  | .direct => [keyword ++ c.target exportName ++ ";"]

end Ambient.Config
