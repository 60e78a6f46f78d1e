import Ambient.Emission.Declaration
import Ambient.Emission.Step

/-!
The walk of one symbol: it logs the declaration, gathers the members of a class or an interface
table by table, and writes the declaration when all of it is known. Instances of a class have to be
objects, and nothing of a class that fails is written.
-/
namespace Ambient

namespace Emission

variable (em : Emission)

def keepsMember (owner : Name) (slot : Slot) (key : String) : Step Bool :=
  if em.config.isExcluded key then do
    Step.log (.excludedMember owner key)
    return false
  else if em.exports.contains (slot.path owner key) then do
    Step.log (.memberExportedSeparately owner key slot)
    return false
  else return true

def memberLine? (ns owner : Name) (slot : Slot) (m : String × Ty) : Step (Option String) := do
  if ← em.keepsMember owner slot m.1 then return some (memberSignature ns m.1 m.2)
  else return none

def staticLine? (write : String → Ty → String) (owner : Name) (m : String × Ty) :
    Step (Option String) := do
  if ← em.keepsMember owner .static m.1 then
    if m.2.isEnum then
      Step.log (.skippingStaticEnum owner m.1)
      return some (staticEnumComment m.1)
    else return some (write m.1 m.2)
  else return none

def gatherInstance (ns owner : Name) (c : ClassType Ty) : Step (List String) := do
  if c.instanceType.isObject then
    let fields ← (em.instanceFields c).filterMapM (em.memberLine? ns owner .instanceField)
    let methods ← c.prototype.filterMapM (em.memberLine? ns owner .prototype)
    return fields ++ methods
  else throw (.thisNotObject owner (c.instanceType.render ns))

def declarePlain (symbol : Name) (kind : DeclKind) (items : List Item) : Step Unit := do
  Step.log (.emittingDeclaration symbol kind)
  items.forM Step.write

def declareClass (ns owner : Name) (c : ClassType Ty) : Step Unit := do
  Step.log (.emittingDeclaration owner .classDecl)
  let members ← em.gatherInstance ns owner c
  let statics ← c.statics.filterMapM
    (em.staticLine? (fun key type => "static " ++ memberSignature ns key type) owner)
  Step.write (.block (classHeader ns owner.lastSegment c)
    (constructorLines ns c.params ++ members ++ statics) "")

def declareCompanion (ns owner : Name) (c : ClassType Ty) : Step Unit := do
  let statics ← c.statics.filterMapM (em.staticLine?
    (fun key type => Text.propertyKey key ++ ": " ++ type.render ns ++ ",") owner)
  match statics with
  | [] => return
  | lines => Step.write (.block ("var " ++ owner.lastSegment ++ ":") lines ";")

def declareInterface (ns : Name) (isDefault : Bool) (owner : Name) (c : ClassType Ty) :
    Step Unit := do
  Step.log (.emittingDeclaration owner .interfaceDecl)
  let members ← em.gatherInstance ns owner c
  Step.write (em.interfaceBlock ns isDefault owner c members)
  em.declareCompanion ns owner c

def walk (ns : Name) (isDefault : Bool) (s : Symbol) : Step Unit := do
  Step.log (.walk ns isDefault s.name)
  let name := s.name.lastSegment
  match s.type? with
  | none => throw (.untypedSymbol s.name)
  | some (.function f) => declarePlain s.name .functionDecl (functionItems ns name f)
  | some (.classlike c) =>
    match c.kind with
    | .constructor => em.declareClass ns s.name c
    | .interface => em.declareInterface ns isDefault s.name c
  | some (.enumeration e) => declarePlain s.name .enumDecl (enumItems ns name e)
  | some (.primitive .none) =>
    match em.graph.aliasTarget? s.name with
    | some target => declarePlain s.name .aliasDecl (aliasItems ns name target)
    | none => declarePlain s.name .varDecl (varItems ns name (.primitive .none))
  | some type => declarePlain s.name .varDecl (varItems ns name type)

end Emission

end Ambient
