import Ambient.Emission.Config
import Ambient.Emission.Event
import Ambient.Emission.Placement

namespace Ambient

structure Emission where
  graph : Graph
  view : MemberView := .throughNames
  config : Config := {}
  /-- The exports that are emitted, each once and in ascending order. -/
  exports : NameSet

namespace Emission

def ofGiven (graph : Graph) (view : MemberView) (config : Config) (given : List Name) : Emission :=
  { graph, view, config, exports := NameSet.ofList (given.filter config.emits) }

/-- What becomes of a symbol below a namespace export: it is declared with its type, or skipped for
the first reason there is. -/
def sibling (em : Emission) (ns : Name) (s : Symbol) : Except SkipReason Ty :=
  if !s.name.isDirectChild ns then .error .nestedBelowChild
  else if em.exports.contains s.name then .error .exportedSeparately
  else
    match s.type? with
    | none => .error .untyped
    | some type =>
      if type.isPrototype then .error .prototypeObject
      else if s.isPrototypeMethod then .error .prototypeMethod
      else .ok type

structure Declared where
  symbol : Name
  type : Ty

def declaredBelow? (em : Emission) (ns : Name) (s : Symbol) : Option Declared :=
  match em.sibling ns s with
  | .ok type => some ⟨s.name, type⟩
  | .error _ => none

def declared (em : Emission) (p : PlacedExport) : List Declared :=
  if p.isDefault then [⟨p.name, p.type⟩]
  else (em.graph.childrenOf p.namespaceName).filterMap (em.declaredBelow? p.namespaceName)

end Emission

end Ambient
