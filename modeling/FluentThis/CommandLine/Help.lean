import FluentThis.CommandLine.Invocation
/-!
What the command line says about itself.
-/

namespace FluentThis.CommandLine

def programName : String := "returnsrcvr"

/-- The variable of the environment that lists generators which are not to be recognized. -/
def disableVariable : String := "RETURNSRCVR_DISABLE_FRAMEWORK_SUPPORT"

def versionText : String := programName ++ " 0.1.0\n"

def helpText : String :=
  "Infer @This qualifiers for fluent builder APIs\n\n" ++
  "Usage: " ++ programName ++ " <COMMAND>\n\n" ++
  "Commands:\n" ++
  "  check  Annotate every method of a program model and report its qualifiers\n" ++
  "  init   Write a default .returnsrcvr.toml in the current directory\n" ++
  "  help   Print this message or the help of the given subcommand(s)\n\n" ++
  "Options:\n" ++
  "  -h, --help     Print help\n" ++
  "  -V, --version  Print version\n"

def UsageError.message : UsageError → String
  | helpAsked => helpText
  | versionAsked => versionText
  | commandMissing => helpText
  | badValue => "error: an argument has no value that it takes\n"
  | unknownArgument => "error: unexpected argument found\n"
  | unknownCommand => "error: unrecognized subcommand\n"
  | surplusValue => "error: unexpected value for an argument that takes none\n"
  | repeatedArgument => "error: an argument cannot be used multiple times\n"
  | programMissing => "error: the following required arguments were not provided:\n  <MODEL>\n"

end FluentThis.CommandLine
