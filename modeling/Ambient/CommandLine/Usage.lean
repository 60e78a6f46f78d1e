import Ambient.CommandLine.Parameter

namespace Ambient.CommandLine

def usageText : String :=
  "Ambient TypeScript declarations from a typed program dump\n\n" ++
  "emit PROGRAM     generate a .d.ts document from a program dump\n" ++
  "  -o, --output FILE          write the document to a file\n" ++
  "  --root NS                  internal root namespace hosting the declarations\n" ++
  "  --module-prefix PREFIX     prefix of declared module names (default: goog)\n" ++
  "  --entry-point NAME         only emit this export (repeatable)\n" ++
  "  --no-module-alias          export the namespace without an import alias\n" ++
  "  --inline-interfaces        write interfaces as type aliases\n" ++
  "check PROGRAM    validate that a program dump can be emitted\n" ++
  "exports PROGRAM  list exported identifiers in emission order\n" ++
  "help             print this text\n\n" ++
  "All commands take --debug, which logs decisions to the standard error, and --help.\n" ++
  "PROGRAM is a JSON file, or - for the standard input.\n"

def UsageError.message : UsageError → String
  | missingArgument => "the path of a program dump is required"
  | unknownArgument => "unexpected argument"
  | unknownCommand => "unrecognized command"
  | invalidValue => "a value is required"
  | surplusValue => "a flag takes no value"
  | repeatedOption => "an option is given more than once"
  | helpRequested | nothingGiven => usageText

/-- A request for help is no failure; everything else that is no command is one of usage. -/
def UsageError.exitCode : UsageError → Nat
  | helpRequested => 0
  | _ => 2

def failureCode : Nat := 1

end Ambient.CommandLine
