import FluentThis.Generator.Basic
import FluentThis.Host
/-!
Recognizing generated builder methods. A method returns its receiver when a generator wrote it for a builder and it
returns exactly the type of that builder. Annotations are told by their names, because the declarations that come with
a generator need not be available.
-/

namespace FluentThis

/-- The annotation on builders that AutoValue implements. -/
def autoValueBuilder : String := "com.google.auto.value.AutoValue.Builder"

/-- The annotation that Lombok puts on what it generates. -/
def lombokGenerated : String := "lombok.Generated"

/-- How the simple name of a Lombok builder ends. -/
def builderSuffix : String := "Builder"

namespace Signature

/-- Whether the type that is returned is declared by the given element. A signature that has lost that type is an
error. -/
def returnsElement (h : Host) (s : Signature) (id : ElementId) : Except Failure Bool :=
  match s.returns with
  | some t => .ok (t.identity.element? == some id)
  | none => .error (.missingReturnType (h.mention s))

end Signature

namespace Host

/-- The AutoValue builder whose methods a type declares or implements: the type itself or else its superclass. -/
def autoValueBuilder? (h : Host) (id : ElementId) : Option ElementId :=
  if h.carries id autoValueBuilder then some id
  else (h.superclass id).element?.filter (h.carries · autoValueBuilder)

def isLombokBuilder (h : Host) (s : Signature) : Bool :=
  (h.carries s.enclosing lombokGenerated || h.carries s.element lombokGenerated) &&
    builderSuffix.toList.isSuffixOf (h.simpleName s.enclosing).toList

/-- The builder for which a generator wrote a method: the method is recognized if it returns that builder. -/
def builder? (h : Host) (g : Generator) (s : Signature) : Option ElementId :=
  match g with
  | .autoValue => h.autoValueBuilder? s.enclosing
  | .lombok => if h.isLombokBuilder s then some s.enclosing else none

end Host

namespace Generator

/-- Whether a generator recognizes a method as one that returns its receiver. -/
def recognizes (g : Generator) (h : Host) (s : Signature) : Except Failure Bool :=
  match h.builder? g s with
  | some builder => s.returnsElement h builder
  | none => .ok false

def firstRecognizing (h : Host) (s : Signature) : List Generator → Except Failure (Option Generator)
  | [] => .ok none
  | g :: gs =>
    match g.recognizes h s with
    | .ok true => .ok (some g)
    | .ok false => firstRecognizing h s gs
    | .error e => .error e

end Generator

namespace GeneratorSet

/-- The first active generator that recognizes a method. -/
def recognizer? (gs : GeneratorSet) (h : Host) (s : Signature) : Except Failure (Option Generator) :=
  Generator.firstRecognizing h s gs.toList

/-- Whether any active generator recognizes a signature as it is declared. -/
def recognizes (gs : GeneratorSet) (h : Host) (s : Signature) : Except Failure Bool :=
  (gs.recognizer? h s).map (·.isSome)

end GeneratorSet

end FluentThis
