import Ambient.Dump.Spec
import Ambient.Program.Graph

/-!
From a program as a dump writes it to the program itself. The owner is the symbol, class or alias
that problems are reported under. Parts of a function that its flavour has no use for are not looked
at: the parameters of an interface, what a class returns, and the parents and tables of an ordinary
function.
-/
namespace Ambient

def EnumValue.ofJson : Json → EnumValue
  | .number n => (n.toFloat?.map EnumValue.number).getD .computed
  | .string s => .string s
  | .bool b => .boolean b
  | _ => .computed

namespace Dump

def enumMembers (owner : Name) (seen : List String) :
    List EnumMemberSpec → Except ModelError (List (String × EnumValue))
  | [] => .ok []
  | m :: ms =>
    if m.name ∈ seen then .error (.duplicateProperty owner m.name)
    else do
      let rest ← enumMembers owner (m.name :: seen) ms
      .ok ((m.name, EnumValue.ofJson m.value) :: rest)

namespace TypeSpec

mutual

def toTy (owner : Name) : TypeSpec → Except ModelError Ty
  | .primitive p => .ok (.primitive p)
  | .named name => .ok (.named name)
  | .union alternates => do
    let alternates ← toTys owner alternates
    .ok (.union alternates)
  | .templateVar name => .ok (.templateVar name)
  | .templatized base args => do
    let args ← toTys owner args
    .ok (.templatized base args)
  | .record properties => do
    let properties ← toProperties owner [] properties
    .ok (.record properties)
  | .enumeration name element members => do
    let element ← toTy owner element
    let members ← enumMembers name [] members
    .ok (.enumeration { name, element, members })
  | .enumElement name => .ok (.enumElement name)
  | .function f => toFunction owner f
  | .prototype name => .ok (.prototype name)

def toTys (owner : Name) : List TypeSpec → Except ModelError (List Ty)
  | [] => .ok []
  | t :: ts => do
    let type ← toTy owner t
    let types ← toTys owner ts
    .ok (type :: types)

/-- A property table; each type comes before the check that its name is new. -/
def toProperties (owner : Name) (seen : List String) :
    List (String × TypeSpec) → Except ModelError Properties
  | [] => .ok []
  | p :: ps => do
    let property ← toProperty owner p
    if property.1 ∈ seen then .error (.duplicateProperty owner property.1)
    else do
      let properties ← toProperties owner (property.1 :: seen) ps
      .ok (property :: properties)

def toProperty (owner : Name) : String × TypeSpec → Except ModelError (String × Ty)
  | (name, t) => do
    let type ← toTy owner t
    .ok (name, type)

def toParams (owner : Name) : List (Param TypeSpec) → Except ModelError (List (Param Ty))
  | [] => .ok []
  | p :: ps => do
    let param ← toParam owner p
    let params ← toParams owner ps
    .ok (param :: params)

def toParam (owner : Name) : Param TypeSpec → Except ModelError (Param Ty)
  | ⟨name?, t, optional, variadic⟩ => do
    let type ← toTy owner t
    .ok { name?, type, optional, variadic }

def toTy? (owner : Name) : Option TypeSpec → Except ModelError (Option Ty)
  | none => .ok none
  | some t => do
    let type ← toTy owner t
    .ok (some type)

/-- A function of any flavour. The tables of a class are reported under the name of the class, which
is that of the owner if it gives none. -/
def toFunction (owner : Name) : FunctionSpec TypeSpec → Except ModelError Ty
  | ⟨name?, isConstructor, isInterface, typeParams, params, returns?, this?, superclass?,
      implements, prototypeTable, staticTable⟩ =>
    if isConstructor && isInterface then .error (.ambiguousFunctionKind owner)
    else if isConstructor || isInterface then do
      let superclass? ← toTy? owner superclass?
      let interfaces ← toTys owner implements
      let params ← if isConstructor then toParams owner params else .ok []
      let this? ← toTy? owner this?
      let name := name?.getD owner
      let prototype ← toProperties name [] prototypeTable
      let statics ← toProperties name [] staticTable
      let kind := if isConstructor then ClassKind.constructor else ClassKind.interface
      .ok (.classlike { name, kind, typeParams, superclass?, interfaces, params,
                        instanceType := this?.getD (.record []), prototype, statics })
    else do
      let params ← toParams owner params
      let returns? ← toTy? owner returns?
      let receiver? ← toTy? owner this?
      .ok (.function { typeParams, params, returns?, receiver? })

end

end TypeSpec

def inserted (g : Graph) (s : Symbol) : Except ModelError Graph :=
  match (Graph.insert s).run g with
  | .ok _ g' => .ok g'
  | .error error _ => .error error

def addSymbol (g : Graph) (s : SymbolSpec) : Except ModelError Graph := do
  let type? ← TypeSpec.toTy? s.name s.type?
  inserted g { name := s.name, type? }

def addAlias (g : Graph) (a : Name × TypeSpec) : Except ModelError Graph := do
  let target ← a.2.toTy a.1
  .ok (g.addAlias a.1 target)

def ProgramSpec.toGraph (p : ProgramSpec) : Except ModelError Graph := do
  let g ← p.symbols.foldlM addSymbol {}
  let g ← p.aliases.foldlM addAlias g
  .ok (p.exports.foldl Graph.addExport g)

end Dump

end Ambient
