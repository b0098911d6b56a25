import FluentThis.Report.Basic
/-!
The report as a listing: one line for each entry and one that counts them. Colors put marks around texts and change
nothing else; they are there only when asked for and when the terminal takes them.
-/

namespace FluentThis

inductive Style where
  | bold
  | green
  | dimmed
  | boldBlue
  deriving DecidableEq, Repr

namespace Style

def code : Style → String
  | bold => "1"
  | green => "32"
  | dimmed => "2"
  | boldBlue => "1;34"

def opening (s : Style) : List Char := '\x1b' :: '[' :: s.code.toList ++ ['m']

def closing : List Char := ['\x1b', '[', '0', 'm']

/-- A text in which the style begins again after every mark that ends one. -/
def reopen (s : Style) : List Char → List Char
  | [] => []
  | '\x1b' :: '[' :: '0' :: 'm' :: r => closing ++ s.opening ++ reopen s r
  | c :: r => c :: reopen s r

/-- A text in a style; `marks` tells whether the terminal takes marks. -/
def paint (marks : Bool) (s : Style) (text : List Char) : List Char :=
  if marks then s.opening ++ s.reopen text ++ closing else text

end Style

namespace Entry

/-- How a qualifier is shown, or its absence. -/
def qualifierLabel (q : Option Qualifier) : List Char := ((q.map Qualifier.label).getD "-").toList

/-- The executable, with its owner. -/
def target (e : Entry) : List Char := e.owner.toList ++ '#' :: e.name.toList

/-- How the generator is shown, if there is one. -/
def source (e : Entry) : List Char := ((e.generator.map fun g => "  (" ++ g.name ++ ")").getD "").toList

/-- The line of an entry, where `paint` puts the parts of it into their styles. -/
def lineWith (paint : Style → List Char → List Char) (e : Entry) : List Char :=
  paint .bold e.target ++ "  return=".toList ++ paint .green (qualifierLabel e.returnQualifier) ++
    " receiver=".toList ++ paint .green (qualifierLabel e.receiverQualifier) ++ paint .dimmed e.source

/-- The line of an entry. Only an entry that returns `@This` is colored. -/
def line (colors marks : Bool) (e : Entry) : List Char :=
  if colors && e.returnsThis then e.lineWith (Style.paint marks) else e.lineWith fun _ text => text

end Entry

namespace Report

def summary (r : Report) : List Char :=
  Nat.toDigits 10 r.returningThis ++ " of ".toList ++ Nat.toDigits 10 r.entries.length ++
    " executables return @This".toList

/-- The characters of the listing, where `colors` asks for colors and `marks` tells whether the terminal takes them. -/
def listingChars (colors marks : Bool) (r : Report) : List Char :=
  r.entries.flatMap (fun e => e.line colors marks ++ ['\n']) ++
    (if colors then Style.paint marks .boldBlue r.summary else r.summary) ++ ['\n']

def listing (colors marks : Bool) (r : Report) : String := String.ofList (r.listingChars colors marks)

end Report

end FluentThis
