/-!
The arguments of the command line: which there are, how they are written, and which values they take.
-/

namespace FluentThis.CommandLine

/-- Why a command line is not carried out. Help and version are asked for; the others are mistakes. -/
inductive UsageError where
  | helpAsked
  | versionAsked
  | commandMissing
  | badValue
  | unknownArgument
  | unknownCommand
  | surplusValue
  | repeatedArgument
  | programMissing
  deriving DecidableEq, Repr

namespace UsageError

def isAnswer : UsageError → Bool
  | helpAsked => true
  | versionAsked => true
  | _ => false

def exitCode (e : UsageError) : Nat := if e.isAnswer then 0 else 2

end UsageError

inductive Argument where
  | help
  | version
  | program
  | disable
  | config
  | format
  | output
  | plain
  | force
  deriving DecidableEq, Repr

namespace Argument

/-- The name after two dashes; the program has none, as it is told by its position. -/
def long? : Argument → Option String
  | help => some "help"
  | version => some "version"
  | program => none
  | disable => some "disable-framework-support"
  | config => some "config"
  | format => some "format"
  | output => some "output"
  | plain => some "plain"
  | force => some "force"

def short? : Argument → Option Char
  | help => some 'h'
  | version => some 'V'
  | format => some 'f'
  | output => some 'o'
  | force => some 'f'
  | _ => none

def takesValue : Argument → Bool
  | program => true
  | disable => true
  | config => true
  | format => true
  | output => true
  | _ => false

/-- The values that the argument takes: a path may not be empty, and a form is told by its name. -/
def accepts : Argument → String → Bool
  | program, v => v != ""
  | config, v => v != ""
  | output, v => v != ""
  | format, v => v == "text" || v == "terminal" || v == "json"
  | _, _ => true

end Argument

end FluentThis.CommandLine
