import Ambient.Emission.Members
import Ambient.Layout.Item

namespace Ambient

/-- The superclass that every class has, which is never written. -/
def isRootObject : Ty → Bool
  | .named name => name == objectBase
  | .classlike c => c.name == objectBase
  | _ => false

def heritageList (ns : Name) (parents : List Ty) : String :=
  ", ".intercalate (parents.map (Ty.renderHeritage ns))

def heritageClause (keyword : String) (ns : Name) : List Ty → String
  | [] => ""
  | parents => keyword ++ heritageList ns parents

def classHeader (ns : Name) (name : String) (c : ClassType Ty) : String :=
  "class " ++ name ++ typeParameterList c.typeParams
    ++ heritageClause " extends " ns (c.superclass?.toList.filter (!isRootObject ·))
    ++ heritageClause " implements " ns c.interfaces

def interfaceHeader (ns : Name) (name : String) (c : ClassType Ty) : String :=
  "interface " ++ name ++ typeParameterList c.typeParams
    ++ heritageClause " extends " ns c.interfaces

/-- The header of an interface that is written as a type alias: its parents are intersected. -/
def inlineHeader (ns : Name) (name : String) (c : ClassType Ty) : String :=
  "type " ++ name ++ typeParameterList c.typeParams ++ " ="
    ++ String.join (c.interfaces.map fun parent => " " ++ parent.renderHeritage ns ++ " &")

def constructorLines (ns : Name) : List (Param Ty) → List String
  | [] => []
  | params => ["constructor(" ++ Ty.parameterList ns params ++ ");"]

structure Declaration where
  symbol : Name
  kind : DeclKind
  items : List Item
  deriving DecidableEq

namespace Emission

variable (em : Emission)

def varItems (ns : Name) (name : String) (type : Ty) : List Item :=
  [.line ("var " ++ name ++ ": " ++ type.render ns ++ ";")]

def aliasItems (ns : Name) (name : String) (target : Ty) : List Item :=
  [.line ("type " ++ name ++ " = " ++ target.render ns ++ ";")]

def functionItems (ns : Name) (name : String) (f : FunctionType Ty) : List Item :=
  [.line ("function " ++ name ++ Ty.renderSignature ns f ++ ";")]

/-- An enum is a type alias for its element type and a variable with its members. -/
def enumItems (ns : Name) (name : String) (e : EnumType Ty) : List Item :=
  [.line ("type " ++ name ++ " = " ++ e.element.render ns ++ ";"),
    .block ("var " ++ name ++ ":")
      (e.members.map fun m => Text.propertyKey m.1 ++ ": " ++ name ++ ",") ";"]

def classBody (ns owner : Name) (c : ClassType Ty) : List String :=
  constructorLines ns c.params ++ em.instanceLines ns owner c
    ++ em.staticLines (staticSignature ns) owner c

def classItems (ns owner : Name) (c : ClassType Ty) : List Item :=
  [.block (classHeader ns owner.lastSegment c) (em.classBody ns owner c) ""]

def companionItems (ns owner : Name) (c : ClassType Ty) : List Item :=
  match em.staticLines (companionEntry ns) owner c with
  | [] => []
  | lines => [.block ("var " ++ owner.lastSegment ++ ":") lines ";"]

def interfaceBlock (ns : Name) (isDefault : Bool) (owner : Name) (c : ClassType Ty)
    (body : List String) : Item :=
  match (em.config.policy.lookup? isDefault .interfaceDecl).getD .named with
  | .named => .block (interfaceHeader ns owner.lastSegment c) body ""
  | .inline => .block (inlineHeader ns owner.lastSegment c) body ";"

def interfaceItems (ns : Name) (isDefault : Bool) (owner : Name) (c : ClassType Ty) : List Item :=
  em.interfaceBlock ns isDefault owner c (em.instanceLines ns owner c)
    :: em.companionItems ns owner c

/-- The declaration of a symbol. One that kept only the empty type is an alias if the program knows
its target, else a variable. -/
def declaration (ns : Name) (isDefault : Bool) (d : Declared) : Declaration :=
  let name := d.symbol.lastSegment
  match d.type with
  | .function f => ⟨d.symbol, .functionDecl, functionItems ns name f⟩
  | .classlike c =>
    match c.kind with
    | .constructor => ⟨d.symbol, .classDecl, em.classItems ns d.symbol c⟩
    | .interface => ⟨d.symbol, .interfaceDecl, em.interfaceItems ns isDefault d.symbol c⟩
  | .enumeration e => ⟨d.symbol, .enumDecl, enumItems ns name e⟩
  | .primitive .none =>
    match em.graph.aliasTarget? d.symbol with
    | some target => ⟨d.symbol, .aliasDecl, aliasItems ns name target⟩
    | none => ⟨d.symbol, .varDecl, varItems ns name (.primitive .none)⟩
  | type => ⟨d.symbol, .varDecl, varItems ns name type⟩

def declarationError? (ns : Name) (d : Declared) : Option EmitError :=
  match d.type with
  | .classlike c =>
    if c.instanceType.isObject then none
    else some (.thisNotObject d.symbol (c.instanceType.render ns))
  | _ => none

/-- What is logged of a declaration; one that fails is logged up to its members. -/
def declarationEvents (ns : Name) (isDefault : Bool) (d : Declared) : List Event :=
  let members :=
    match d.type with
    | .classlike c => if c.instanceType.isObject then em.memberEvents d.symbol c else []
    | _ => []
  .walk ns isDefault d.symbol
    :: .emittingDeclaration d.symbol (em.declaration ns isDefault d).kind :: members

end Emission

end Ambient
