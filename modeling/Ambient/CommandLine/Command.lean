import Ambient.CommandLine.Arguments

namespace Ambient.CommandLine

structure EmitParams where
  program : String
  output? : Option String := none
  root? : Option String := none
  modulePrefix? : Option String := none
  entryPoints : List String := []
  noModuleAlias : Bool := false
  inlineInterfaces : Bool := false
  debug : Bool := false
  deriving DecidableEq

structure EmitArguments where
  program : String
  output? : Option String := none
  root? : Option String := none
  modulePrefix? : Option String := none
  entryPoints : List String := []
  moduleAlias : Bool := true
  inlineInterfaces : Bool := false
  deriving DecidableEq

inductive Command where
  | emit (arguments : EmitArguments) (debug : Bool)
  | check (program : String) (debug : Bool)
  | exports (program : String) (debug : Bool)
  deriving DecidableEq

/-- The path of the dump; one that is not given is that of the standard input. -/
def Matches.program (m : Matches) : String := (m.one? "program_path").getD "-"

namespace EmitParams

def ofMatches (m : Matches) : EmitParams where
  program := m.program
  output? := m.one? "output"
  root? := m.one? "root"
  modulePrefix? := m.one? "module_prefix"
  entryPoints := m.many "entry_point"
  noModuleAlias := m.flag "no_module_alias"
  inlineInterfaces := m.flag "inline_interfaces"
  debug := m.flag "debug"

def toArguments (p : EmitParams) : EmitArguments where
  program := p.program
  output? := p.output?
  root? := p.root?
  modulePrefix? := p.modulePrefix?
  entryPoints := p.entryPoints
  moduleAlias := !p.noModuleAlias
  inlineInterfaces := p.inlineInterfaces

end EmitParams

namespace Command

def ofMatches (m : Matches) : CommandName → Command
  | .emit =>
    let params := EmitParams.ofMatches m
    .emit params.toArguments params.debug
  | .check => .check m.program (m.flag "debug")
  | .exports => .exports m.program (m.flag "debug")

def ofHelp : List String → UsageError
  | [] => .helpRequested
  | [name] =>
    if name = "help" ∨ (CommandName.ofText? name).isSome then .helpRequested else .unknownCommand
  | _ => .unknownCommand

def ofEscaped : List String → UsageError
  | [] => .nothingGiven
  | name :: _ =>
    if name = "help" ∨ (CommandName.ofText? name).isSome then .unknownArgument else .unknownCommand

def ofArguments : List String → Except UsageError Command
  | [] => .error .nothingGiven
  | name :: rest =>
    match CommandName.ofText? name with
    | some c => (parseArguments c.args rest).map (ofMatches · c)
    | none =>
      if name = "help" then .error (ofHelp rest)
      else
        match Token.ofArgument name with
        | .escape => .error (ofEscaped rest)
        | .long "help" none => .error .helpRequested
        | .long "help" (some _) => .error .surplusValue
        | .long _ _ => .error .unknownArgument
        | .short 'h' _ => .error .helpRequested
        | .short _ _ => .error .unknownArgument
        | .value => .error .unknownCommand

end Command

end Ambient.CommandLine
