import FluentThis.CommandLine.Parsing
/-!
What a command line asks for. The first word names a command; the rest of the words belong to it.
-/

namespace FluentThis.CommandLine

/-- The forms of a report, as they are named on the command line. -/
inductive FormatName where
  | text
  | json
  deriving DecidableEq, Repr

def FormatName.ofValue (v : String) : FormatName := if v = "json" then .json else .text

structure CheckArguments where
  program : String
  disabled : Option String
  config : Option String
  format : FormatName
  output : Option String
  plain : Bool
  deriving DecidableEq, Repr

inductive Invocation where
  | check (arguments : CheckArguments)
  | init (force : Bool)
  deriving DecidableEq, Repr

/-- The commands, and the one that explains them. -/
inductive CommandName where
  | check
  | init
  | help
  deriving DecidableEq, Repr

def CommandName.ofWord? : String → Option CommandName
  | "check" => some .check
  | "init" => some .init
  | "help" => some .help
  | _ => none

/-- The arguments of a check. A list of disabled generators in the environment counts when the command line has
none. -/
def parseCheck (environment : Option String) (words : List String) : Except UsageError Invocation := do
  let value ← Progress.words [.disable, .config, .format, .output, .plain, .help] [.program] {} words
  match value .program with
  | none => .error .programMissing
  | some program =>
    return .check
      { program := program
        disabled := (value .disable).or environment
        config := value .config
        format := ((value .format).map FormatName.ofValue).getD .text
        output := value .output
        plain := (value .plain).isSome }

def parseInit (words : List String) : Except UsageError Invocation := do
  let value ← Progress.words [.force, .help] [] {} words
  return .init (value .force).isSome

/-- The commands whose explanation is asked for have to exist, and none of them has commands of its own. -/
def parseHelp : List String → UsageError
  | [] => .helpAsked
  | [word] => if (CommandName.ofWord? word).isSome then .helpAsked else .unknownCommand
  | _ => .unknownCommand

/-- A command line, without the name of the program. `afterEscape` tells whether two dashes came before. -/
def parseWords (environment : Option String) : Bool → List String → Except UsageError Invocation
  | _, [] => .error .commandMissing
  | true, word :: _ => .error (if (CommandName.ofWord? word).isSome then .unknownArgument else .unknownCommand)
  | false, word :: rest =>
    match CommandName.ofWord? word with
    | some .check => parseCheck environment rest
    | some .init => parseInit rest
    | some .help => .error (parseHelp rest)
    | none =>
      match Word.ofString word with
      | .escape => parseWords environment true rest
      | .plain => .error .unknownCommand
      | _ =>
        match Progress.word [.help, .version] [] {} word with
        | .error e => .error e
        | .ok _ => parseWords environment false rest

/-- A command line, without the name of the program. -/
def parse (environment : Option String) (words : List String) : Except UsageError Invocation :=
  parseWords environment false words

end FluentThis.CommandLine
