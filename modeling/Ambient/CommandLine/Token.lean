namespace Ambient.CommandLine

inductive Token where
  /-- The mark after which all arguments are values. -/
  | escape
  | long (name : String) (value? : Option String)
  | short (letter : Char) (rest : List Char)
  | value

def splitEquals (cs : List Char) : Token :=
  let name := String.ofList (cs.takeWhile (· != '='))
  match cs.dropWhile (· != '=') with
  | [] => .long name none
  | _ :: value => .long name (some (String.ofList value))

/-- The form of an argument. A single dash is a value. -/
def Token.ofArgument (argument : String) : Token :=
  match argument.toList with
  | ['-', '-'] => .escape
  | '-' :: '-' :: cs => splitEquals cs
  | '-' :: c :: cs => .short c cs
  | _ => .value

end Ambient.CommandLine
