import Ambient.CommandLine.Parser
import Ambient.CommandLine.Token

/-!
The parser of arguments. A value stands in the argument of its option after an equals sign, or is
the next argument. An option is settled only when the next one begins or the arguments end, so a
fault in its value may come after an unknown argument has been found.
-/
namespace Ambient.CommandLine

namespace Matches

def addValue (m : Matches) (a : Arg) (value : String) : Except UsageError Matches :=
  if a.action ≠ .append ∧ m.many a.id ≠ [] then .error .repeatedOption
  else if a.path ∧ value = "" then .error .invalidValue
  else .ok (m.add a.id value)

def addFlag (m : Matches) (a : Arg) : Except UsageError Matches :=
  if m.flag a.id then .error .repeatedOption else .ok (m.raise a.id)

end Matches

inductive Pending where
  | nothing
  | awaiting (a : Arg)
  | filled (a : Arg) (value : String)
  deriving DecidableEq

structure Progress where
  found : Matches := {}
  pending : Pending := .nothing
  deriving DecidableEq

namespace Progress

/-- Settles what is pending; an option that still awaits its value has none. -/
def settle (p : Progress) : Except UsageError Matches :=
  match p.pending with
  | .nothing => .ok p.found
  | .awaiting _ => .error .invalidValue
  | .filled a value => p.found.addValue a value

def met (p : Progress) (a : Arg) : Bool :=
  match p.pending with
  | .filled b _ => b.id = a.id || !(p.found.many a.id).isEmpty
  | .nothing | .awaiting _ => !(p.found.many a.id).isEmpty

def named (p : Progress) (attached? : Option String) (a : Arg) : Except UsageError Progress :=
  match a.action, attached? with
  | .setTrue, some _ => .error .surplusValue
  | .setTrue, none => do
    let found ← p.settle
    let found ← found.addFlag a
    .ok { found }
  | .set, some value | .append, some value => do
    let found ← p.settle
    let found ← found.addValue a value
    .ok { found }
  | .set, none | .append, none => do
    let found ← p.settle
    .ok { found, pending := .awaiting a }

def help (p : Progress) (attached? : Option String) : Except UsageError Progress :=
  match attached? with
  | some _ => .error .surplusValue
  | none => do
    let _ ← p.settle
    .error .helpRequested

/-- A value that belongs to no option is that of the argument that stands alone. -/
def positional (args : List Arg) (p : Progress) (value : String) : Except UsageError Progress :=
  match args.find? (·.isPositional) with
  | none => .error .unknownArgument
  | some a =>
    if p.met a then .error .unknownArgument
    else do
      let found ← p.settle
      .ok { found, pending := .filled a value }

def value (args : List Arg) (p : Progress) (value : String) : Except UsageError Progress :=
  match p.pending with
  | .awaiting a => .ok { p with pending := .filled a value }
  | .nothing | .filled .. => p.positional args value

def long (args : List Arg) (p : Progress) (name : String) (attached? : Option String) :
    Except UsageError Progress :=
  match args.find? (·.long? = some name) with
  | some a => p.named attached? a
  | none => if name = "help" then p.help attached? else .error .unknownArgument

end Progress

/-- What is attached to a short name: the rest of its argument, less one equals sign. -/
def attachedToShort? : List Char → Option String
  | [] => none
  | '=' :: cs => some (String.ofList cs)
  | cs => some (String.ofList cs)

/-- A short name with the rest of its argument. The rest is the value of an option; after a flag it
would hold more short names, but the only such flag is the request for help. -/
def Progress.short (args : List Arg) (p : Progress) (letter : Char) (rest : List Char) :
    Except UsageError Progress :=
  match args.find? (·.short? = some letter) with
  | some a => p.named (attachedToShort? rest) a
  | none => if letter = 'h' then p.help none else .error .unknownArgument

def readArguments (args : List Arg) (p : Progress) : List String → Except UsageError Matches
  | [] => p.settle
  | argument :: rest =>
    match Token.ofArgument argument with
    | .escape => do
      let p ← rest.foldlM (Progress.positional args) p
      p.settle
    | .long name attached? => do
      let p ← p.long args name attached?
      readArguments args p rest
    | .short letter cs => do
      let p ← p.short args letter cs
      readArguments args p rest
    | .value => do
      let p ← p.value args argument
      readArguments args p rest

def checkRequired (args : List Arg) (m : Matches) : Except UsageError Matches :=
  if ∀ a ∈ args, a.required = true → m.many a.id ≠ [] then .ok m else .error .missingArgument

/-- Whether an argument is required is looked at in the end, when all others are known. -/
def parseArguments : Parser := fun args line => do
  let m ← readArguments (args.map Arg.relaxed) {} line
  checkRequired args m

end Ambient.CommandLine
