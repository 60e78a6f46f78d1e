import Ambient.Emission.Basic
import Ambient.Ty.Render

namespace Ambient

inductive MemberFate where
  | excluded
  | exportedSeparately
  | kept
  deriving DecidableEq

def memberSignature (ns : Name) (key : String) (type : Ty) : String :=
  match type with
  | .function f => Text.propertyKey key ++ Ty.renderSignature ns f ++ ";"
  | t => Text.propertyKey key ++ ": " ++ t.render ns ++ ";"

def staticEnumComment (key : String) : String := "// skipped static enum " ++ key

def staticSignature (ns : Name) (key : String) (type : Ty) : String :=
  if type.isEnum then staticEnumComment key else "static " ++ memberSignature ns key type

def companionEntry (ns : Name) (key : String) (type : Ty) : String :=
  if type.isEnum then staticEnumComment key
  else Text.propertyKey key ++ ": " ++ type.render ns ++ ","

namespace Emission

variable (em : Emission)

def memberFate (owner : Name) (slot : Slot) (key : String) : MemberFate :=
  if em.config.isExcluded key then .excluded
  else if em.exports.contains (slot.path owner key) then .exportedSeparately
  else .kept

def keptMembers (owner : Name) (slot : Slot) (table : Properties) : Properties :=
  table.filter fun m => em.memberFate owner slot m.1 = .kept

def instanceFields (c : ClassType Ty) : Properties :=
  (em.graph.membersOf? em.view c.instanceType).getD []

def instanceLines (ns owner : Name) (c : ClassType Ty) : List String :=
  (em.keptMembers owner .instanceField (em.instanceFields c) ++
    em.keptMembers owner .prototype c.prototype).map fun m => memberSignature ns m.1 m.2

def staticLines (write : String → Ty → String) (owner : Name) (c : ClassType Ty) : List String :=
  (em.keptMembers owner .static c.statics).map fun m => write m.1 m.2

def memberEvent? (owner : Name) (slot : Slot) (m : String × Ty) : Option Event :=
  match em.memberFate owner slot m.1 with
  | .excluded => some (.excludedMember owner m.1)
  | .exportedSeparately => some (.memberExportedSeparately owner m.1 slot)
  | .kept =>
    if slot = .static ∧ m.2.isEnum then some (.skippingStaticEnum owner m.1) else none

def memberEvents (owner : Name) (c : ClassType Ty) : List Event :=
  (em.instanceFields c).filterMap (em.memberEvent? owner .instanceField) ++
    c.prototype.filterMap (em.memberEvent? owner .prototype) ++
    c.statics.filterMap (em.memberEvent? owner .static)

end Emission

end Ambient
