import FluentThis.Failure
import FluentThis.Text.Blank
import FluentThis.Text.Capital
/-!
The code generators whose builders are recognized, and which of them are active. A list of disabled generators is
read name by name; the first part that names no generator is an error.
-/

namespace FluentThis

inductive Generator where
  | autoValue
  | lombok
  deriving DecidableEq, Repr

namespace Generator

/-- Every generator, in the order in which they are asked. -/
def all : List Generator := [autoValue, lombok]

theorem mem_all (g : Generator) : g ∈ all := by cases g <;> decide

def name : Generator → String
  | autoValue => "AutoValue"
  | lombok => "Lombok"

/-- The name in lists of disabled generators, which may be written in any case. -/
def optionName : Generator → String
  | autoValue => "AUTOVALUE"
  | lombok => "LOMBOK"

/-- The generator that a text names when it is written in capitals and without the blanks around it. -/
def named? (s : String) : Option Generator :=
  all.find? fun g => g.optionName.toList = Text.capitals (Text.trimChars s.toList)

/-- The generator that a text has to name. -/
def ofText (s : String) : Except Failure Generator :=
  match named? s with
  | some g => .ok g
  | none => .error (.unknownGenerator (Text.trim s))

end Generator

structure GeneratorSet where
  contains : Generator → Bool

namespace GeneratorSet

instance : Membership Generator GeneratorSet := ⟨fun s g => s.contains g = true⟩

def all : GeneratorSet := ⟨fun _ => true⟩

/-- The active generators, in the order in which they are asked. -/
def toList (s : GeneratorSet) : List Generator := Generator.all.filter s.contains

def erase (s : GeneratorSet) (g : Generator) : GeneratorSet := ⟨fun g' => s.contains g' && g' != g⟩

def eraseAll (s : GeneratorSet) : List String → Except Failure GeneratorSet
  | [] => .ok s
  | part :: parts =>
    match Generator.ofText part with
    | .ok g => (s.erase g).eraseAll parts
    | .error e => .error e

/-- The parts of a list between its commas. There is always at least one. -/
def parts (s : String) : List String := (s.toList.splitOn ',').map String.ofList

/-- The generators that are active when those in a list are disabled. Without a list all of them are. -/
def disabling : Option String → Except Failure GeneratorSet
  | none => .ok all
  | some list => all.eraseAll (parts list)

theorem mem_def {s : GeneratorSet} {g : Generator} : g ∈ s ↔ s.contains g = true := Iff.rfl

theorem mem_all (g : Generator) : g ∈ all := rfl

theorem mem_toList {s : GeneratorSet} {g : Generator} : g ∈ s.toList ↔ g ∈ s := by
  simp [toList, Generator.mem_all, mem_def]

theorem mem_erase {s : GeneratorSet} {g g' : Generator} : g' ∈ s.erase g ↔ g' ∈ s ∧ g' ≠ g := by
  simp [mem_def, erase]

end GeneratorSet

end FluentThis
