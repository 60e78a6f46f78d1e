import Ambient.Layout.Writer
import Ambient.Name

namespace Ambient

inductive EmitError where
  | unresolvedExport (name : Name)
  | untypedSymbol (name : Name)
  /-- The instance type of a class or interface is not an object; it is given as rendered. -/
  | thisNotObject (symbol : Name) (found : String)
  | layout (error : LayoutError)
  deriving DecidableEq

def EmitError.message : EmitError → String
  | unresolvedExport name => "exported symbol not defined: " ++ name
  | untypedSymbol name => "exported symbol has no type: " ++ name
  | thisNotObject symbol found =>
    "expected an object type for `this` of `" ++ symbol ++ "`, found " ++ found
  | layout error => error.message

end Ambient
