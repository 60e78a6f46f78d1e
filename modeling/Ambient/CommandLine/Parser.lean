import Ambient.CommandLine.Parameter

/-!
Parsers of arguments. Parsing by declared arguments is not this library's own: a parser is given,
and what is relied on is what one more argument does to arguments that parse already.
-/
namespace Ambient.CommandLine

/-- What was found of the declared arguments, under their ids. -/
structure Matches where
  values : List (String × String) := []
  flags : List String := []
  deriving DecidableEq

namespace Matches

def many (m : Matches) (id : String) : List String :=
  m.values.filterMap fun e => if e.1 = id then some e.2 else none

def one? (m : Matches) (id : String) : Option String := (m.many id).head?

def flag (m : Matches) (id : String) : Bool := m.flags.contains id

def add (m : Matches) (id value : String) : Matches :=
  { m with values := m.values ++ [(id, value)] }

def raise (m : Matches) (id : String) : Matches := { m with flags := m.flags ++ [id] }

end Matches

abbrev Parser := List Arg → List String → Except UsageError Matches

def IsPlain (text : String) : Prop := text ≠ "" ∧ text.toList.head? ≠ some '-'

instance (text : String) : Decidable (IsPlain text) := inferInstanceAs (Decidable (_ ∧ _))

/-- A name that can be told from what is attached to it. -/
def IsOptionName (name : String) : Prop := name ≠ "" ∧ '=' ∉ name.toList

instance (name : String) : Decidable (IsOptionName name) := inferInstanceAs (Decidable (_ ∧ _))

inductive Arg.Spells (a : Arg) (text : String) : List String → Prop where
  | alone (unnamed : a.isPositional = true) : Spells a text [text]
  | attached {name : String} (named : a.long? = some name) :
      Spells a text ["--" ++ name ++ "=" ++ text]
  | next {name : String} (named : a.long? = some name) : Spells a text ["--" ++ name, text]
  | shortAttached {letter : Char} (lettered : a.short? = some letter) :
      Spells a text ["-" ++ letter.toString ++ "=" ++ text]
  | shortNext {letter : Char} (lettered : a.short? = some letter) :
      Spells a text ["-" ++ letter.toString, text]

/-- Declared arguments that can be told apart, from one another and from a request for help. -/
structure WellDeclared (args : List Arg) : Prop where
  ids : (args.map (·.id)).Nodup
  longs : (args.filterMap (·.long?)).Nodup
  shorts : (args.filterMap (·.short?)).Nodup
  sole : (args.filter (·.isPositional)).length ≤ 1
  once : ∀ a ∈ args, a.isPositional = true → a.action = .set
  named : ∀ name ∈ args.filterMap (·.long?), IsOptionName name ∧ name ≠ "help"
  lettered : ∀ letter ∈ args.filterMap (·.short?), letter ≠ '-' ∧ letter ≠ 'h'

/-- How a parser of declared arguments works. -/
structure Parser.Documented (parse : Parser) : Prop where
  nothing {args : List Arg} (declared : WellDeclared args)
    (free : ∀ a ∈ args, a.required = false) : parse args [] = .ok {}
  value {args : List Arg} {a : Arg} {text : String} {piece line : List String} {m : Matches}
    (declared : WellDeclared args) (known : a ∈ args) (valued : a.action ≠ .setTrue)
    (fresh : a.action = .append ∨ m.many a.id = []) (plain : IsPlain text)
    (spells : a.Spells text piece) (unescaped : "--" ∉ line) (parsed : parse args line = .ok m) :
    parse args (line ++ piece) = .ok (m.add a.id text)
  flag {args : List Arg} {a : Arg} {name : String} {line : List String} {m : Matches}
    (declared : WellDeclared args) (known : a ∈ args) (raised : a.action = .setTrue)
    (named : a.long? = some name) (fresh : m.flag a.id = false) (unescaped : "--" ∉ line)
    (parsed : parse args line = .ok m) : parse args (line ++ ["--" ++ name]) = .ok (m.raise a.id)
  /-- Whether an argument is required only tells whether it must be there in the end. -/
  required {args : List Arg} {line : List String} {m : Matches} (declared : WellDeclared args)
    (parsed : parse (args.map Arg.relaxed) line = .ok m)
    (given : ∀ a ∈ args, a.required = true → m.many a.id ≠ []) : parse args line = .ok m

end Ambient.CommandLine
