import Ambient.Emission.Frame
import Ambient.Emission.Walk

/-!
The run of an emission: export by export in ascending order, each with its namespace block and its
module block. The first problem ends the run, wherever it is met, and there is no document then.
-/
namespace Ambient

namespace Emission

variable (em : Emission)

def isSibling (ns : Name) (s : Symbol) : Step Bool :=
  match em.sibling ns s with
  | .ok _ => return true
  | .error reason => do
    Step.log (.skippingSibling s.name reason)
    return false

def declareSibling (ns : Name) (s : Symbol) : Step Unit := do
  if ← em.isSibling ns s then em.walk ns false s

def declareInside (ns : Name) (isDefault : Bool) (s : Symbol) : Step Unit :=
  if isDefault then em.walk ns true s
  else (em.graph.childrenOf ns).forM (em.declareSibling ns)

def declareNamespace (ns : Name) (isDefault : Bool) (s : Symbol) : Step Unit := do
  Step.openBlock (em.config.namespaceHeader ns)
  em.declareInside ns isDefault s
  Step.closeBlock "\x7d"

def declareModule (exportName : Name) (isDefault : Bool) : Step Unit := do
  Step.openBlock (em.config.moduleHeader exportName)
  (em.config.moduleLines exportName isDefault).forM fun text => Step.write (.line text)
  Step.closeBlock "\x7d"

def emitExport (name : Name) : Step Unit :=
  match em.graph.resolve? name with
  | none => throw (.unresolvedExport name)
  | some s =>
    match s.type? with
    | none => throw (.untypedSymbol name)
    | some type => do
      let isDefault := type.isDefaultExport
      let ns := if isDefault then s.namespaceName else s.name
      Step.log (.declaringExport name ns isDefault)
      em.declareNamespace ns isDefault s
      em.declareModule name isDefault

def emitAll : Step String := do
  em.exports.names.forM em.emitExport
  Step.finish

end Emission

def Config.rejections (c : Config) (given : List Name) : List Event :=
  (given.filter (!c.emits ·)).map .notEntryPoint

namespace Graph

def emission (g : Graph) (view : MemberView) (config : Config) (given : List Name) :
    EStateM.Result EmitError Output String :=
  (Emission.ofGiven g view config given).emitAll.run
    { log := (config.rejections given).toArray }

def emit (g : Graph) (view : MemberView) (config : Config) (given : List Name) :
    Except EmitError String :=
  match g.emission view config given with
  | .ok text _ => .ok text
  | .error error _ => .error error

def emitLog (g : Graph) (view : MemberView) (config : Config) (given : List Name) :
    List Event :=
  match g.emission view config given with
  | .ok _ o | .error _ o => o.log.toList

end Graph

end Ambient
