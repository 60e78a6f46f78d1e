namespace Ambient.CommandLine

inductive UsageError where
  | missingArgument
  | unknownArgument
  | unknownCommand
  /-- A value is missing, or a path is empty. -/
  | invalidValue
  | surplusValue
  | repeatedOption
  | helpRequested
  | nothingGiven
  deriving DecidableEq

inductive Action where
  /-- The argument has one value. -/
  | set
  /-- It has a value each time it is given. -/
  | append
  /-- It is a flag. -/
  | setTrue
  deriving DecidableEq

/-- An argument as a command declares it. One without a name stands alone. -/
structure Arg where
  id : String
  long? : Option String := none
  short? : Option Char := none
  action : Action := .set
  required : Bool := false
  path : Bool := false
  deriving DecidableEq

namespace Arg

def isPositional (a : Arg) : Bool := a.long?.isNone && a.short?.isNone

def relaxed (a : Arg) : Arg := { a with required := false }

def programPath : Arg := { id := "program_path", required := true, path := true }

def output : Arg := { id := "output", long? := "output", short? := 'o', path := true }

def root : Arg := { id := "root", long? := "root" }

def modulePrefix : Arg := { id := "module_prefix", long? := "module-prefix" }

def entryPoint : Arg := { id := "entry_point", long? := "entry-point", action := .append }

def noModuleAlias : Arg :=
  { id := "no_module_alias", long? := "no-module-alias", action := .setTrue }

def inlineInterfaces : Arg :=
  { id := "inline_interfaces", long? := "inline-interfaces", action := .setTrue }

def debug : Arg := { id := "debug", long? := "debug", action := .setTrue }

end Arg

inductive CommandName where
  | emit
  | check
  | exports
  deriving DecidableEq

namespace CommandName

def ofText? : String → Option CommandName
  | "emit" => some emit
  | "check" => some check
  | "exports" => some exports
  | _ => none

def args : CommandName → List Arg
  | emit => [.programPath, .output, .root, .modulePrefix, .entryPoint, .noModuleAlias,
      .inlineInterfaces, .debug]
  | check | exports => [.programPath, .debug]

end CommandName

end Ambient.CommandLine
