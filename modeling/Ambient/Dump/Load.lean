import Ambient.Dump.Reader
import Ambient.Json.Scan

namespace Ambient

inductive LoadError where
  | text (fault : Fault)
  | model (error : ModelError)
  deriving DecidableEq

def LoadError.message : LoadError → String
  | text fault => "invalid program dump: " ++ fault.message
  | model error => error.message

namespace Dump

/-- The program a text writes down; nothing but blanks may follow it. -/
def ProgramSpec.ofText (text : String) : Except Fault ProgramSpec := do
  let (value, surplus?) := Json.ofText text
  let program ← read (.struct .program) value
  match surplus? with
  | none => .ok program
  | some fault => .error fault

end Dump

def Graph.load (text : String) : Except LoadError Graph := do
  let program ← (Dump.ProgramSpec.ofText text).mapError LoadError.text
  program.toGraph.mapError LoadError.model

end Ambient
