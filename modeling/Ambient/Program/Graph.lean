import Ambient.Program.Symbol
import Ambient.Program.Table

namespace Ambient

inductive ModelError where
  /-- A function type flagged both as a constructor and as an interface. -/
  | ambiguousFunctionKind (symbol : Name)
  | duplicateSymbol (name : Name)
  | duplicateProperty (owner : Name) (name : String)
  deriving DecidableEq

def ModelError.message : ModelError → String
  | ambiguousFunctionKind symbol =>
    "function type of `" ++ symbol ++ "` is neither ordinary, constructor, nor interface"
  | duplicateSymbol name => "symbol defined twice: " ++ name
  | duplicateProperty owner name => "property `" ++ name ++ "` defined twice on `" ++ owner ++ "`"

structure SymbolTable extends Table Symbol where
  named : ∀ e ∈ entries, e.2.name = e.1

namespace SymbolTable

def empty : SymbolTable := ⟨.empty, nofun⟩

def add (t : SymbolTable) (s : Symbol) : SymbolTable where
  toTable := t.toTable.insert s.name s
  named := fun e member => (mem_of_mem_insertEntry member).elim (fun new => new ▸ rfl) (t.named e)

end SymbolTable

structure Graph where
  symbols : SymbolTable := .empty
  aliases : Table Ty := .empty
  exports : NameSet := .empty

inductive MemberView where
  /-- In records and, for classes, among the statics. -/
  | direct
  /-- Also behind a named type: the record it names, or the instance fields of the class. -/
  | throughNames
  deriving DecidableEq

namespace Graph

/-- Adds a symbol in place of any earlier one of its name. -/
def define (g : Graph) (s : Symbol) : Graph :=
  { g with symbols := g.symbols.add s }

def insert (s : Symbol) : EStateM ModelError Graph Unit := fun g =>
  if g.symbols.contains s.name then .error (.duplicateSymbol s.name) g
  else .ok () { g with symbols := g.symbols.add s }

def addAlias (g : Graph) (name : Name) (target : Ty) : Graph :=
  { g with aliases := g.aliases.insert name target }

def addExport (g : Graph) (name : Name) : Graph :=
  { g with exports := g.exports.add name }

def resolve? (g : Graph) (name : Name) : Option Symbol := g.symbols.find? name

def aliasTarget? (g : Graph) (name : Name) : Option Ty := g.aliases.find? name

def symbolList (g : Graph) : List Symbol := g.symbols.entries.map (·.2)

def childrenOf (g : Graph) (ns : Name) : List Symbol :=
  if ns = "" then g.symbolList
  else (g.symbols.startingWith (ns ++ ".")).map (·.2)

def namedFields? (g : Graph) (name : Name) : Option Properties :=
  match (g.resolve? name).bind (·.type?) with
  | some (.record fields) => some fields
  | some (.classlike c) =>
    match c.instanceType with
    | .record fields => some fields
    | _ => none
  | _ => none

/-- The members of an object-like owner in declaration order: the properties of a record, the
statics of a class. -/
def membersOf? (g : Graph) (view : MemberView) : Ty → Option Properties
  | .record fields => some fields
  | .classlike c => some c.statics
  | .named name =>
    match view with
    | .direct => none
    | .throughNames => g.namedFields? name
  | _ => none

end Graph

end Ambient
