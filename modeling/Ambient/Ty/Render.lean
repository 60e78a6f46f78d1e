import Ambient.Text.PropertyKey
import Ambient.Ty.Classify

/-!
The text of a type in a declaration, as written inside a namespace. Rendering is pure: a reference
is written by its relative name and its declaration is not visited. An absent alternate of a union
is not written, and a union of one surviving alternate is written as that alternate.
-/
namespace Ambient

def arrayBase : Name := "Array"

def objectBase : Name := "Object"

def Primitive.keyword : Primitive → String
  | .boolean => "boolean"
  | .number => "number"
  | .string => "string"
  | .void => "void"
  | .null | .unknown | .all | .none | .noObject => "any"

def parameterLetters : List Char := "abcdefghijklmnopqrstuvwxyz".toList

/-- The name of an unnamed parameter by its position: a letter while there is one, then p and the
position. -/
def positionalName (index : Nat) : String :=
  match parameterLetters[index]? with
  | some letter => letter.toString
  | none => "p" ++ toString index

def typeParameterList : List String → String
  | [] => ""
  | names => "<" ++ ", ".intercalate names ++ ">"

namespace Ty

def kept (alternates : List Ty) : List Ty := alternates.filter (!·.isAbsence)

mutual

/-- Whether a type is written as an arrow, which would take a following pair of brackets to its
return type. -/
def isArrow : Ty → Bool
  | .function _ => true
  | .union ts => isSoleArrow ts
  | _ => false

def isSoleArrow : List Ty → Bool
  | [] => false
  | t :: ts => if t.isAbsence then isSoleArrow ts else isArrow t && (kept ts).isEmpty

end

def isParenthesized : Ty → Bool
  | .union ts => 1 < (kept ts).length
  | _ => false

def unionText : List String → String
  | [] => "any"
  | [single] => single
  | texts => "(" ++ " | ".intercalate texts ++ ")"

def recordText : List String → String
  | [] => "\x7b\x7d"
  | fields => "\x7b " ++ ", ".intercalate fields ++ " \x7d"

/-- The key of an index signature: numbers and strings as they are, any other type coerced to a
string with a warning. -/
def indexKey (key : Ty) (keyText : String) : String :=
  match key with
  | .primitive .number => "[key: number]"
  | .primitive .string => "[key: string]"
  | _ => "[/* warning: coerced from " ++ keyText ++ " */ key: string]"

def appliedText (ns base : Name) : List String → String
  | [] => base.relative ns
  | texts => base.relative ns ++ "<" ++ ", ".intercalate texts ++ ">"

/-- A generic type from its base, its arguments and their texts: the built-in array and index
signature have a form of their own, decided by the full name of the base. -/
def templatizedText (ns base : Name) (args : List Ty) (texts : List String) : String :=
  match args, texts with
  | [element], [text] =>
    if base = arrayBase then (if element.isArrow then "(" ++ text ++ ")[]" else text ++ "[]")
    else appliedText ns base texts
  | [key, _], [keyText, valueText] =>
    if base = objectBase then "\x7b " ++ indexKey key keyText ++ ": " ++ valueText ++ " \x7d"
    else appliedText ns base texts
  | _, _ => appliedText ns base texts

/-- One parameter: a rest parameter is optional already and takes no question mark; its element
type is put in parentheses unless it is a bare any or has parentheses. -/
def paramText (index : Nat) (name? : Option String) (type : Ty) (optional variadic : Bool)
    (text : String) : String :=
  let name := name?.getD (positionalName index)
  if variadic then
    let element := if type.isAnyLike || type.isParenthesized then text else "(" ++ text ++ ")"
    "..." ++ name ++ ": " ++ element ++ "[]"
  else name ++ (if optional then "?" else "") ++ ": " ++ text

mutual

def render (ns : Name) : Ty → String
  | .primitive p => p.keyword
  | .named name | .enumElement name | .prototype name => name.relative ns
  | .union ts => unionText (renderKept ns ts)
  | .templateVar name => name
  | .templatized base args => templatizedText ns base args (renderList ns args)
  | .record ps => recordText (renderFields ns ps)
  | .enumeration e => "typeof " ++ e.name.relative ns
  | .function f => renderArrow ns f
  | .classlike c =>
    match c.kind with
    | .constructor => "typeof " ++ c.name.relative ns
    | .interface => c.name.relative ns

def renderList (ns : Name) : List Ty → List String
  | [] => []
  | t :: ts => render ns t :: renderList ns ts

def renderKept (ns : Name) : List Ty → List String
  | [] => []
  | t :: ts => if t.isAbsence then renderKept ns ts else render ns t :: renderKept ns ts

def renderFields (ns : Name) : List (String × Ty) → List String
  | [] => []
  | p :: ps => renderField ns p :: renderFields ns ps

def renderField (ns : Name) : String × Ty → String
  | (name, t) => Text.propertyKey name ++ ": " ++ render ns t

def renderArrow (ns : Name) : FunctionType Ty → String
  | ⟨typeParams, params, returns?, _⟩ =>
    typeParameterList typeParams ++ "(" ++ ", ".intercalate (renderParams ns 0 params) ++ ") => "
      ++ renderReturn ns returns?

def renderParams (ns : Name) (index : Nat) : List (Param Ty) → List String
  | [] => []
  | p :: ps => renderParam ns index p :: renderParams ns (index + 1) ps

def renderParam (ns : Name) (index : Nat) : Param Ty → String
  | ⟨name?, type, optional, variadic⟩ =>
    paramText index name? type optional variadic (render ns type)

def renderReturn (ns : Name) : Option Ty → String
  | none => "void"
  | some t => render ns t

end

def renderHeritage (ns : Name) : Ty → String
  | .classlike c => c.name.relative ns
  | t => render ns t

def parameterList (ns : Name) (params : List (Param Ty)) : String :=
  ", ".intercalate (renderParams ns 0 params)

def renderSignature (ns : Name) (f : FunctionType Ty) : String :=
  typeParameterList f.typeParams ++ "(" ++ parameterList ns f.params ++ "): "
    ++ renderReturn ns f.returns?

end Ty

end Ambient
