import FluentThis.Generator.Basic
/-!
The settings of a check. They come from a host, from a configuration file and from the command line; a later one that
is given overrides the earlier ones.
-/

namespace FluentThis

/-- The list of generators that are not to be recognized, if one is given. -/
structure Settings where
  disabled : Option String := none
  deriving DecidableEq, Repr

namespace Settings

/-- The settings among the options that a host passes on, by name. -/
def ofOptions (options : List (String × String)) : Settings := ⟨options.lookup disableOption⟩

/-- The settings with a list of generators that are not to be recognized. -/
def disabling (_ : Settings) (list : String) : Settings := ⟨some list⟩

/-- The settings with those of `overrides` that are given. -/
def override (s overrides : Settings) : Settings := ⟨overrides.disabled.or s.disabled⟩

def generators (s : Settings) : Except Failure GeneratorSet := GeneratorSet.disabling s.disabled

end Settings

structure Config where
  checker : Settings := {}
  deriving DecidableEq, Repr

end FluentThis
