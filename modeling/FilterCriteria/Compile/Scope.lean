/-
The parameters of the lambdas around an expression, and the paths from
there to the records that they stand for.
-/
import FilterCriteria.Expr

namespace FilterCriteria

/-- The parameters in scope, the innermost first. -/
structure Scope where
  params : List Param

namespace Scope

def empty : Scope := ⟨[]⟩

/-- The scope inside a lambda. -/
def enter (s : Scope) (p : Param) : Scope :=
  ⟨p :: s.params⟩

/-- The scope around the innermost lambda. -/
def leave (s : Scope) : Scope :=
  ⟨s.params.tail⟩

/-- The innermost parameter. -/
def current? (s : Scope) : Option Param :=
  s.params.head?

/-- The number of lambdas around. -/
def depth (s : Scope) : Nat :=
  s.params.length

def contains (s : Scope) (p : Param) : Bool :=
  s.params.any p.same

/-- The number of lambdas between here and the innermost one that declares
the parameter. -/
def hops? (s : Scope) (p : Param) : Option Nat :=
  s.params.findIdx? p.same

/-- The step in a path that leaves one collection. -/
def parentMarker : String := "^."

/-- So many steps out of collections. -/
def markers (hops : Nat) : String :=
  String.join (List.replicate hops parentMarker)

/-- The start of the paths to the members of a parameter. -/
def path? (s : Scope) (p : Param) : Option String :=
  (s.hops? p).map markers

end Scope

end FilterCriteria
