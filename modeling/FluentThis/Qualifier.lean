/-!
The receiver qualifiers. A value of a type qualified `@This` is the receiver of the call that returned it. The
qualifiers form one chain, from `@UnknownThis`, which says nothing, down to `@BottomThis`.
-/

namespace FluentThis

/-- The three qualifiers, from the top of the chain to its bottom. -/
inductive Qualifier where
  | unknown
  | receiver
  | bottom
  deriving DecidableEq, Repr

namespace Qualifier

/-- Every qualifier, the top of the chain first. -/
def all : List Qualifier := [unknown, receiver, bottom]

theorem mem_all (q : Qualifier) : q ∈ all := by cases q <;> decide

/-- The chain is the only hierarchy, so every qualifier has the same top. -/
def top (_ : Qualifier) : Qualifier := unknown

/-- Every qualifier has the same bottom. -/
def bottomOf (_ : Qualifier) : Qualifier := bottom

/-- The number of steps from the top of the chain. -/
def depth : Qualifier → Nat
  | unknown => 0
  | receiver => 1
  | bottom => 2

/-- A qualifier is below another when it stands at least as deep in the chain. -/
def isSubtypeOf (q r : Qualifier) : Bool := r.depth ≤ q.depth

/-- Whether the hierarchy of `q` is the one whose top is `t`. -/
def isInHierarchy (q t : Qualifier) : Bool := q.top = t

def name : Qualifier → String
  | unknown => "UnknownThis"
  | receiver => "This"
  | bottom => "BottomThis"

def label (q : Qualifier) : String := "@" ++ q.name

theorem name_injective {q r : Qualifier} (h : q.name = r.name) : q = r := by
  cases q <;> cases r <;> simp_all [name]

end Qualifier

end FluentThis
