import Ambient.Emission.Policy
import Ambient.Name

namespace Ambient

inductive SkipReason where
  | nestedBelowChild
  | exportedSeparately
  | untyped
  | prototypeObject
  | prototypeMethod
  deriving DecidableEq

def SkipReason.message : SkipReason → String
  | nestedBelowChild => "nested below a child"
  | exportedSeparately => "exported separately"
  | untyped => "untyped"
  | prototypeObject => "prototype object"
  | prototypeMethod => "prototype method"

inductive Slot where
  | instanceField
  | prototype
  | static
  deriving DecidableEq

namespace Slot

def label : Slot → String
  | instanceField => "Instance"
  | prototype => "Prototype"
  | static => "Static"

def path (owner : Name) (key : String) : Slot → Name
  | static => owner.child key
  | instanceField | prototype => (owner.child "prototype").child key

end Slot

inductive Event where
  | notEntryPoint (exportName : Name)
  | declaringExport (exportName namespaceName : Name) (isDefault : Bool)
  | walk (namespaceName : Name) (isDefault : Bool) (symbol : Name)
  | skippingSibling (symbol : Name) (reason : SkipReason)
  | emittingDeclaration (symbol : Name) (kind : DeclKind)
  | excludedMember (owner : Name) (key : String)
  | memberExportedSeparately (owner : Name) (key : String) (slot : Slot)
  | skippingStaticEnum (owner : Name) (key : String)
  deriving DecidableEq

inductive LogLevel where
  | debug
  | trace
  deriving DecidableEq

def LogLevel.label : LogLevel → String
  | debug => "DEBUG"
  | trace => "TRACE"

inductive LogValue where
  | text (value : String)
  | flag (value : Bool)
  deriving DecidableEq

structure LogRecord where
  level : LogLevel
  message : String
  isSpan : Bool := false
  fields : List (String × LogValue)
  deriving DecidableEq

def Event.record : Event → LogRecord
  | notEntryPoint exportName =>
    { level := .trace, message := "not an entry point", fields := [("export", .text exportName)] }
  | declaringExport exportName namespaceName isDefault =>
    { level := .debug, message := "declaring export"
      fields := [("export", .text exportName), ("namespace", .text namespaceName),
        ("is_default", .flag isDefault)] }
  | walk namespaceName isDefault symbol =>
    { level := .trace, message := "walk", isSpan := true
      fields := [("namespace", .text namespaceName), ("is_default", .flag isDefault),
        ("symbol", .text symbol)] }
  | skippingSibling symbol reason =>
    { level := .trace, message := "skipping sibling"
      fields := [("symbol", .text symbol), ("reason", .text reason.message)] }
  | emittingDeclaration symbol kind =>
    { level := .debug, message := "emitting declaration"
      fields := [("symbol", .text symbol), ("kind", .text kind.keyword)] }
  | excludedMember owner key =>
    { level := .trace, message := "excluded member"
      fields := [("owner", .text owner), ("member", .text key)] }
  | memberExportedSeparately owner key slot =>
    { level := .trace, message := "member exported separately"
      fields := [("owner", .text owner), ("member", .text key), ("slot", .text slot.label)] }
  | skippingStaticEnum owner key =>
    { level := .trace, message := "skipping static enum"
      fields := [("owner", .text owner), ("member", .text key)] }

end Ambient
