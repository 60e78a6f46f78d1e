import Ambient.Dump.Spec

/-!
The format of a dump: what stands in each place of it and which fields its structures have. The
fields of a type follow its tag, and a type inside a type stands in a buffer.
-/
namespace Ambient.Dump

inductive Struct where
  | program
  | symbol
  | property
  | param
  | member
  /-- What belongs to a type of a kind, besides its tag. -/
  | variant (kind : Kind)
  deriving DecidableEq

inductive Form where
  | text
  | flag
  | json
  | tag (buffered : Bool)
  | type (buffered : Bool)
  /-- A place where null stands for absence. -/
  | nullable (form : Form)
  | list (form : Form)
  /-- Values under names, of which a repeated one keeps its first place and takes its last value. -/
  | table (form : Form)
  | struct (s : Struct)
  deriving DecidableEq

abbrev Struct.Value : Struct → Type
  | program => ProgramSpec
  | symbol => SymbolSpec
  | property => String × TypeSpec
  | param => Param TypeSpec
  | member => EnumMemberSpec
  | variant _ => TypeSpec

namespace Form

abbrev Value : Form → Type
  | text => String
  | flag => Bool
  | json => Json
  | tag _ => Kind
  | type _ => TypeSpec
  | nullable form => Option form.Value
  | list form => List form.Value
  | table form => List (String × form.Value)
  | struct s => s.Value

def default? : (form : Form) → Option form.Value
  | flag => some false
  | nullable _ => some none
  | list _ | table _ => some []
  | text | json | tag _ | type _ | struct _ => none

def written? : Form → Option Json
  | flag => some (.bool false)
  | nullable _ => some .null
  | list _ => some (.array [] none)
  | table _ => some (.object [] none)
  | text | json | tag _ | type _ | struct _ => none

end Form

structure Field where
  key : String
  form : Form
  /-- Whether the field may be left out and has its default then. -/
  optional : Bool := false
  deriving DecidableEq

namespace Field

def default? (f : Field) : Option f.form.Value := if f.optional then f.form.default? else none

def written? (f : Field) : Option Json := if f.optional then f.form.written? else none

def kind (buffered : Bool) : Field := { key := "kind", form := .tag buffered }

end Field

def Kind.fields : Kind → List Field
  | primitive _ => []
  | named | template | enumElement => [{ key := "name", form := .text }]
  | union => [{ key := "alternates", form := .list (.type true) }]
  | templatized => [
    { key := "base", form := .text },
    { key := "args", form := .list (.type true), optional := true }]
  | record => [{ key := "properties", form := .list (.struct .property), optional := true }]
  | enumeration => [
    { key := "name", form := .text },
    { key := "element", form := .type true },
    { key := "members", form := .list (.struct .member), optional := true }]
  | function => [
    { key := "name", form := .nullable .text, optional := true },
    { key := "constructor", form := .flag, optional := true },
    { key := "interface", form := .flag, optional := true },
    { key := "template_params", form := .list .text, optional := true },
    { key := "params", form := .list (.struct .param), optional := true },
    { key := "returns", form := .nullable (.type true), optional := true },
    { key := "this", form := .nullable (.type true), optional := true },
    { key := "superclass", form := .nullable (.type true), optional := true },
    { key := "implements", form := .list (.type true), optional := true },
    { key := "prototype", form := .list (.struct .property), optional := true },
    { key := "statics", form := .list (.struct .property), optional := true }]
  | prototype => [{ key := "owner", form := .text }]

def Struct.fields : Struct → List Field
  | program => [
    { key := "exports", form := .list .text, optional := true },
    { key := "symbols", form := .list (.struct .symbol), optional := true },
    { key := "aliases", form := .table (.type false), optional := true }]
  | symbol => [
    { key := "name", form := .text },
    { key := "type", form := .nullable (.type false), optional := true }]
  | property => [
    { key := "name", form := .text },
    { key := "type", form := .type true }]
  | param => [
    { key := "name", form := .nullable .text, optional := true },
    { key := "type", form := .type true },
    { key := "optional", form := .flag, optional := true },
    { key := "variadic", form := .flag, optional := true }]
  | member => [
    { key := "name", form := .text },
    { key := "value", form := .nullable .json, optional := true }]
  | variant kind => kind.fields

abbrev Values : List Field → Type
  | [] => Unit
  | f :: fs => f.form.Value × Values fs

def Kind.make : (kind : Kind) → Values kind.fields → TypeSpec
  | primitive p, () => .primitive p
  | named, (name, ()) => .named name
  | union, (alternates, ()) => .union alternates
  | template, (name, ()) => .templateVar name
  | templatized, (base, args, ()) => .templatized base args
  | record, (properties, ()) => .record properties
  | enumeration, (name, element, members, ()) => .enumeration name element members
  | enumElement, (name, ()) => .enumElement name
  | function, (name?, constructor, interface, typeParams, params, returns?, this?, superclass?,
      implements, prototypeTable, statics, ()) =>
    .function { name?, constructor, interface, typeParams, params, returns?, this?, superclass?,
                implements, prototype := prototypeTable, statics }
  | prototype, (owner, ()) => .prototype owner

def Struct.make : (s : Struct) → Values s.fields → s.Value
  | program, (exports, symbols, aliases, ()) => { exports, symbols, aliases }
  | symbol, (name, type?, ()) => { name, type? }
  | property, (name, type, ()) => (name, type)
  | param, (name?, type, optional, variadic, ()) => { name?, type, optional, variadic }
  | member, (name, value?, ()) => { name, value := value?.getD .null }
  | variant kind, values => kind.make values

def collect (get : (f : Field) → Option f.form.Value) : (fs : List Field) → Option (Values fs)
  | [] => some ()
  | f :: fs => do
    let value ← get f
    let values ← collect get fs
    some (value, values)

abbrev Slots := (f : Field) → Option f.form.Value

namespace Slots

def empty : Slots := fun _ => none

def set (slots : Slots) (f : Field) (value : f.form.Value) : Slots := fun g =>
  if same : f = g then some (same ▸ value) else slots g

/-- Fields that were not read have their default. -/
def filled (slots : Slots) : Slots := fun f => (slots f).or f.default?

end Slots

end Ambient.Dump
