import Ambient.Json.Basic
import Ambient.Ty.Basic

/-!
Programs as a dump writes them down. All flavours of function share one form here, tables may repeat
a name, and the values of enum members are arbitrary JSON.
-/
namespace Ambient.Dump

structure EnumMemberSpec where
  name : String
  value : Json := .null

/-- A function of any flavour: ordinary, constructor or interface by its two flags. -/
structure FunctionSpec (τ : Type) where
  name? : Option Name := none
  constructor : Bool := false
  interface : Bool := false
  typeParams : List String := []
  params : List (Param τ) := []
  returns? : Option τ := none
  /-- The receiver of an ordinary function, the instance type of the others. -/
  this? : Option τ := none
  superclass? : Option τ := none
  implements : List τ := []
  prototype : List (String × τ) := []
  statics : List (String × τ) := []

inductive TypeSpec where
  | primitive (p : Primitive)
  | named (name : Name)
  | union (alternates : List TypeSpec)
  | templateVar (name : String)
  | templatized (base : Name) (args : List TypeSpec)
  | record (properties : List (String × TypeSpec))
  | enumeration (name : Name) (element : TypeSpec) (members : List EnumMemberSpec)
  | enumElement (name : Name)
  | function (f : FunctionSpec TypeSpec)
  | prototype (owner : Name)

structure SymbolSpec where
  name : Name
  type? : Option TypeSpec := none

structure ProgramSpec where
  exports : List Name := []
  symbols : List SymbolSpec := []
  /-- Each name once, with the last target given, in the order of first mention. -/
  aliases : List (Name × TypeSpec) := []

inductive Kind where
  | primitive (p : Primitive)
  | named
  | union
  | template
  | templatized
  | record
  | enumeration
  | enumElement
  | function
  | prototype
  deriving DecidableEq

namespace Kind

def tags : List (String × Kind) := [
  ("boolean", primitive .boolean), ("number", primitive .number), ("string", primitive .string),
  ("void", primitive .void), ("null", primitive .null), ("unknown", primitive .unknown),
  ("all", primitive .all), ("none", primitive .none), ("no_object", primitive .noObject),
  ("named", named), ("union", union), ("template", template), ("templatized", templatized),
  ("record", record), ("enum", enumeration), ("enum_element", enumElement),
  ("function", function), ("prototype", prototype)]

def ofTag? (tag : String) : Option Kind := tags.lookup tag

/-- The kind of a number, which may stand for the tag of a type inside a type. -/
def ofIndex? (index : Nat) : Option Kind := (tags[index]?).map (·.2)

end Kind

end Ambient.Dump
