namespace Ambient

inductive DeclKind where
  | functionDecl
  | classDecl
  | interfaceDecl
  | enumDecl
  /-- A type alias whose target the program knows. -/
  | aliasDecl
  | varDecl
  deriving DecidableEq

namespace DeclKind

def keyword : DeclKind → String
  | functionDecl => "function"
  | classDecl => "class"
  | interfaceDecl => "interface"
  | enumDecl => "enum"
  | aliasDecl => "type"
  | varDecl => "var"

end DeclKind

inductive InterfaceForm where
  /-- An interface by name, with its statics on a variable beside it. -/
  | named
  /-- A type alias for an object type. -/
  | inline
  deriving DecidableEq

inductive ModuleShim where
  /-- Through an alias that it imports first. -/
  | alias
  | direct
  deriving DecidableEq

structure Policy where
  defaultInterface : InterfaceForm := .named
  namespacedInterface : InterfaceForm := .named
  shim : ModuleShim := .alias
  deriving DecidableEq

namespace Policy

def interfaceForm (p : Policy) (isDefault : Bool) : InterfaceForm :=
  if isDefault then p.defaultInterface else p.namespacedInterface

/-- The choice there is for a kind of declaration; only interfaces have one. -/
def lookup? (p : Policy) (isDefault : Bool) : DeclKind → Option InterfaceForm
  | .interfaceDecl => some (p.interfaceForm isDefault)
  | _ => none

end Policy

end Ambient
