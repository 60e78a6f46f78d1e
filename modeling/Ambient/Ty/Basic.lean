import Ambient.Entries
import Ambient.Name

/-!
Types of a checked program. They are closed and finite: a reference to another declaration is a
qualified name, never the type behind it. Functions, classes and enums are structures over the type
they are made of, so that the recursion is in one place.
-/
namespace Ambient

/-- Built-in types and the markers for what the checker could not say. -/
inductive Primitive where
  | boolean
  | number
  | string
  | void
  | null
  | unknown
  | all
  /-- The empty type, also left on symbols that became type aliases. -/
  | none
  | noObject
  deriving DecidableEq

namespace Primitive

/-- Markers without a keyword of their own, which widen to any. -/
def isAnyLike : Primitive → Bool
  | null | unknown | all | none | noObject => true
  | boolean | number | string | void => false

def isAbsence : Primitive → Bool
  | null | void => true
  | _ => false

end Primitive

/-- The literal value of an enum member; opaque if it is computed or not a literal. -/
inductive EnumValue where
  | number (value : Float)
  | string (value : String)
  | boolean (value : Bool)
  | computed

structure Param (τ : Type) where
  name? : Option String
  /-- The declared type; the element type of a rest parameter. -/
  type : τ
  optional : Bool := false
  variadic : Bool := false

structure FunctionType (τ : Type) where
  typeParams : List String := []
  params : List (Param τ) := []
  returns? : Option τ := none
  /-- The bound receiver of a method reached through a prototype. -/
  receiver? : Option τ := none

inductive ClassKind where
  | constructor
  | interface
  deriving DecidableEq

structure ClassType (τ : Type) where
  name : Name
  kind : ClassKind
  typeParams : List String := []
  superclass? : Option τ := none
  /-- Implemented by a constructor, extended by an interface. -/
  interfaces : List τ := []
  params : List (Param τ) := []
  instanceType : τ
  prototype : List (String × τ) := []
  statics : List (String × τ) := []

structure EnumType (τ : Type) where
  name : Name
  element : τ
  members : List (String × EnumValue)

inductive Ty where
  | primitive (p : Primitive)
  | named (name : Name)
  | union (alternates : List Ty)
  | templateVar (name : String)
  | templatized (base : Name) (args : List Ty)
  | record (properties : List (String × Ty))
  | enumeration (e : EnumType Ty)
  | enumElement (name : Name)
  | function (f : FunctionType Ty)
  | classlike (c : ClassType Ty)
  | prototype (owner : Name)

abbrev Properties := List (String × Ty)

def ClassType.empty (name : Name) (kind : ClassKind) : ClassType Ty :=
  { name, kind, instanceType := .record [] }

/-- A record of entries, where a repeated key keeps its first place and takes its last type. -/
def Ty.recordOf (entries : List (String × Ty)) : Ty := .record (Entries.ofList entries)

end Ambient
