import Ambient.Text.Identifier

namespace Ambient.Text

def escapeKey : List Char → List Char
  | [] => []
  | c :: cs => if c = '\\' ∨ c = '\'' then '\\' :: c :: escapeKey cs else c :: escapeKey cs

def quotedKey (name : String) : String := "'" ++ String.ofList (escapeKey name.toList) ++ "'"

def propertyKey (name : String) : String :=
  if isIdentifier name then name else quotedKey name

end Ambient.Text
