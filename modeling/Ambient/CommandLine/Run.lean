import Ambient.CommandLine.Command
import Ambient.Dump.Load
import Ambient.Emission.Run
import Ambient.Listing

namespace Ambient.CommandLine

inductive AccessFault where
  | missing
  | isDirectory
  | notDirectory
  | notText
  | other (text : String)
  deriving DecidableEq

def AccessFault.message : AccessFault → String
  | missing => "No such file or directory (os error 2)"
  | isDirectory => "Is a directory (os error 21)"
  | notDirectory => "Not a directory (os error 20)"
  | notText => "stream did not contain valid UTF-8"
  | other text => text

inductive CommandError where
  | read (path : String) (fault : AccessFault)
  | write (path : String) (fault : AccessFault)
  | load (error : LoadError)
  | emit (error : EmitError)
  deriving DecidableEq

def CommandError.message : CommandError → String
  | read path fault => "failed to read '" ++ path ++ "': " ++ fault.message
  | write path fault => "failed to write '" ++ path ++ "': " ++ fault.message
  | load error => error.message
  | emit error => error.message

inductive Reply where
  | silence
  | print (text : String)
  | save (path : String) (text : String)
  deriving DecidableEq

inductive Source where
  | standardInput
  | file (path : String)
  deriving DecidableEq

/-- A single dash stands for the standard input. -/
def Source.ofPath (path : String) : Source := if path = "-" then .standardInput else .file path

def EmitArguments.policy (a : EmitArguments) : Policy :=
  let form := if a.inlineInterfaces then InterfaceForm.inline else .named
  { defaultInterface := form, namespacedInterface := form
    shim := if a.moduleAlias then .alias else .direct }

def EmitArguments.config (a : EmitArguments) : Config :=
  let base : Config := {}
  { internalRoot := a.root?.getD base.internalRoot
    modulePrefix := a.modulePrefix?.getD base.modulePrefix
    entryPoints? := if a.entryPoints.isEmpty then none else some a.entryPoints
    policy := a.policy }

namespace Command

def program : Command → String
  | emit a _ => a.program
  | check program _ => program
  | exports program _ => program

def debug : Command → Bool
  | emit _ debug => debug
  | check _ debug => debug
  | exports _ debug => debug

def config : Command → Config
  | emit a _ => a.config
  | check .. | exports .. => {}

def reply (c : Command) (g : Graph) : Except EmitError Reply :=
  match c with
  | emit a _ =>
    (g.emit .throughNames a.config g.exports.names).map fun text =>
      match a.output? with
      | some path => .save path text
      | none => .print text
  | check .. => (g.emit .throughNames {} g.exports.names).map fun _ => .silence
  | exports .. => g.listing.map .print

def run (c : Command) (dump : Except AccessFault String) : Except CommandError Reply := do
  let text ← dump.mapError (.read c.program)
  let g ← (Graph.load text).mapError .load
  (c.reply g).mapError .emit

end Command

end Ambient.CommandLine
