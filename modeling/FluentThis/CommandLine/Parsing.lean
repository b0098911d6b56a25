import FluentThis.CommandLine.Argument
/-!
Reading the words of a command line. A value is looked at when the next argument begins, so an argument that is not
known is reported before a bad value in front of it.
-/

namespace FluentThis.CommandLine

/-- How far a command line is read: the arguments that are complete, latest first; the one in progress with its
value, if it has one already; whether its value is due; whether only positions count, as after two dashes; and how
many positions are taken. -/
structure Progress where
  found : List (Argument × String) := []
  pending : Option (Argument × Option String) := none
  valueDue : Bool := false
  positionsOnly : Bool := false
  positions : Nat := 0
  deriving DecidableEq, Repr

namespace Progress

def complete (p : Progress) (a : Argument) (value : Option String) : Except UsageError Progress :=
  if a = .help then .error .helpAsked
  else if a = .version then .error .versionAsked
  else if a.takesValue && value.isNone then .error .badValue
  else if p.found.any (·.1 == a) then .error .repeatedArgument
  else if a.accepts (value.getD "") || !a.takesValue then
    .ok { p with found := (a, value.getD "") :: p.found, valueDue := false }
  else .error .badValue

def settle (p : Progress) : Except UsageError Progress :=
  match p.pending with
  | none => .ok p
  | some (a, value) => { p with pending := none }.complete a value

/-- An argument begins, with a value if one is attached to it. -/
def argument (p : Progress) (a : Argument) (value : Option String) : Except UsageError Progress := do
  let p ← p.settle
  if a.takesValue && value.isNone then return { p with pending := some (a, none), valueDue := true }
  else p.complete a value

def long (arguments : List Argument) (p : Progress) (name : String) (value : Option String) :
    Except UsageError Progress :=
  match arguments.find? (·.long? == some name) with
  | none => .error .unknownArgument
  | some a => if !a.takesValue && value.isSome then .error .surplusValue else p.argument a value

/-- Several arguments by their letters. The first one that takes a value takes what is left, after an equals sign if
there is one. -/
def short (arguments : List Argument) (p : Progress) : List Char → Except UsageError Progress
  | [] => .ok p
  | c :: cs =>
    match arguments.find? (·.short? == some c) with
    | none => .error .unknownArgument
    | some a =>
      if a.takesValue then
        match cs with
        | [] => p.argument a none
        | '=' :: v => p.argument a (some (String.ofList v))
        | v => p.argument a (some (String.ofList v))
      else do
        let p ← p.argument a none
        short arguments p cs

def position (positional : List Argument) (p : Progress) (word : String) : Except UsageError Progress :=
  match positional[p.positions]? with
  | none => .error .unknownArgument
  | some a => do
    let p ← p.settle
    return { p with pending := some (a, some word), valueDue := false, positions := p.positions + 1 }

end Progress

/-- What a word is, apart from where it stands. -/
inductive Word where
  | escape
  | long (name : String) (value : Option String)
  | short (letters : List Char)
  | plain
  deriving DecidableEq, Repr

/-- Two dashes, an argument by name, arguments by letters, or anything else; a single dash is anything else. -/
def Word.ofString (s : String) : Word :=
  match s.toList with
  | ['-', '-'] => .escape
  | '-' :: '-' :: cs =>
    match cs.dropWhile (· != '=') with
    | [] => .long (String.ofList cs) none
    | _ :: value => .long (String.ofList (cs.takeWhile (· != '='))) (some (String.ofList value))
  | ['-'] => .plain
  | '-' :: cs => .short cs
  | _ => .plain

namespace Progress

/-- One word, where `arguments` are told by name or letter and `positional` by their position. -/
def word (arguments positional : List Argument) (p : Progress) (s : String) : Except UsageError Progress :=
  if p.positionsOnly then p.position positional s
  else
    match Word.ofString s with
    | .escape => .ok { p with positionsOnly := true }
    | .long name value => p.long arguments name value
    | .short letters => p.short arguments letters
    | .plain =>
      match p.valueDue, p.pending with
      | true, some (a, _) => .ok { p with pending := some (a, some s), valueDue := false }
      | _, _ => p.position positional s

def words (arguments positional : List Argument) (p : Progress) (ss : List String) :
    Except UsageError (Argument → Option String) := do
  let p ← ss.foldlM (Progress.word arguments positional) p
  let p ← p.settle
  return fun a => p.found.lookup a

end Progress

end FluentThis.CommandLine
