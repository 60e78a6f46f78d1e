import Ambient.Emission.Policy
import Ambient.Name

namespace Ambient

structure Config where
  /-- The namespace that hosts all declarations. -/
  internalRoot : Name := "ಠ_ಠ.declgen"
  modulePrefix : String := "goog"
  /-- The only exports to emit, if there is such a restriction. -/
  entryPoints? : Option (List Name) := none
  excludedMembers : List String := ["constructor", "superClass_"]
  policy : Policy := {}

namespace Config

def emits (c : Config) (name : Name) : Bool :=
  match c.entryPoints? with
  | none => true
  | some names => names.contains name

/-- Whether a member is left out whatever its type; the prototype always is. -/
def isExcluded (c : Config) (key : String) : Bool :=
  key == "prototype" || c.excludedMembers.contains key

end Config

end Ambient
