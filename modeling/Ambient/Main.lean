import Ambient.CommandLine.Run
import Ambient.CommandLine.Usage

namespace Ambient.CommandLine

def AccessFault.ofError : IO.Error → AccessFault
  | .noFileOrDirectory .. => .missing
  | .inappropriateType _ 21 _ => .isDirectory
  | .inappropriateType .. => .notDirectory
  | error => .other (toString error)

def readSource (source : Source) : IO (Except AccessFault String) := do
  let path :=
    match source with
    | .standardInput => "/dev/stdin"
    | .file path => path
  try
    let bytes ← IO.FS.readBinFile path
    match String.fromUTF8? bytes with
    | some text => return .ok text
    | none => return .error .notText
  catch error => return .error (.ofError error)

def save (path text : String) : IO (Except AccessFault Unit) := do
  try
    IO.FS.writeFile path text
    return .ok ()
  catch error => return .error (.ofError error)

def logLine (r : LogRecord) : String :=
  r.level.label ++ " " ++ r.message ++ String.join (r.fields.map fun f =>
    " " ++ f.1 ++ "=" ++ match f.2 with
      | .text value => value
      | .flag value => toString value)

def decisions (c : Command) (g : Graph) : List LogRecord :=
  ((g.emitLog .throughNames c.config g.exports.names).map Event.record).filter
    (·.level = .debug)

def logDecisions (c : Command) (dump : Except AccessFault String) : IO Unit := do
  match c, dump with
  | .exports .., _ | _, .error _ => return
  | _, .ok text =>
    match Graph.load text with
    | .error _ => return
    | .ok g => (decisions c g).forM fun r => IO.eprintln (logLine r)

def fail (error : CommandError) : IO UInt32 := do
  IO.eprintln ("error: " ++ error.message)
  return failureCode.toUInt32

def perform (c : Command) : IO UInt32 := do
  let dump ← readSource (.ofPath c.program)
  if c.debug then logDecisions c dump
  match c.run dump with
  | .error error => fail error
  | .ok .silence => return 0
  | .ok (.print text) =>
    IO.print text
    return 0
  | .ok (.save path text) =>
    match ← save path text with
    | .ok () => return 0
    | .error fault => fail (.write path fault)

end Ambient.CommandLine

open Ambient.CommandLine in
def main (arguments : List String) : IO UInt32 := do
  match Command.ofArguments arguments with
  | .ok c => perform c
  | .error error =>
    if error.exitCode = 0 then IO.print error.message else IO.eprintln ("error: " ++ error.message)
    return error.exitCode.toUInt32
