/-
Custom functions, by name. A registration can be for a while: releasing it
puts back what it stood in front of.
-/
import FilterCriteria.Criterion.Text
import FilterCriteria.Eval.Conversion
import FilterCriteria.Pattern

namespace FilterCriteria

/-- A function that criteria can call by its name. -/
structure CustomFunction where
  name : String
  description : String
  /-- The type of the result for operands of these types. -/
  resultType : List Ty → Ty
  evaluate : List Value → Except EvalError Value

namespace CustomFunction

/-- A function with one result type and no description. -/
def ofResult (name : String) (result : Ty)
    (evaluate : List Value → Except EvalError Value) : CustomFunction :=
  ⟨name, "", fun _ => result, evaluate⟩

/-- Matches a text with a pattern; with null for either, the result is
null. -/
def evaluateLike : List Value → Except EvalError Value
  | [.null, _] | [_, .null] => .ok .null
  | [.string text, .string pattern] =>
    .ok (.bool (Pattern.isMatch text pattern))
  | _ => .error (.failed .likeOperands)

/-- The function of the operator `Like`. -/
def like : CustomFunction :=
  ⟨Criterion.likeName, "SQL-style pattern match", fun _ => .bool, evaluateLike⟩

end CustomFunction

/-- The functions that have been registered, each under its name, in the
order of the names. -/
structure Registry where
  entries : List (String × CustomFunction)
  sorted : Assoc.Sorted entries
  named : ∀ e ∈ entries, e.2.name = e.1

namespace Registry

def empty : Registry := ⟨[], Assoc.sorted_nil, nofun⟩

def find? (r : Registry) (name : String) : Option CustomFunction :=
  Assoc.find? name r.entries

theorem name_of_find? {r : Registry} {name : String} {f : CustomFunction}
    (h : r.find? name = some f) : f.name = name :=
  r.named _ (Assoc.mem_of_find? h)

def contains (r : Registry) (name : String) : Bool :=
  (r.find? name).isSome

/-- The names of the functions, in ascending order. -/
def names (r : Registry) : List String :=
  r.entries.map Prod.fst

theorem named_insert (r : Registry) (f : CustomFunction) :
    ∀ e ∈ Assoc.insert f.name f r.entries, e.2.name = e.1 := by
  intro e he
  rcases Assoc.mem_of_mem_insert he with rfl | he
  · rfl
  · exact r.named e he

/-- Registers a function under its name. The second part of the result is
what the name stood for. -/
def register (r : Registry) (f : CustomFunction) :
    Registry × Option CustomFunction :=
  (⟨Assoc.insert f.name f r.entries, Assoc.sorted_insert f.name f r.sorted,
    r.named_insert f⟩, r.find? f.name)

/-- Takes a name out. The second part of the result is what it stood for. -/
def unregister (r : Registry) (name : String) :
    Registry × Option CustomFunction :=
  (⟨Assoc.erase name r.entries, Assoc.sorted_erase name r.sorted,
    fun e he => r.named e (Assoc.mem_of_mem_erase he)⟩, r.find? name)

/-- The registry that a program starts with. -/
def initial : Registry :=
  (empty.register .like).1

/-- The registry with these functions, the later ones in place of earlier
ones of the same name. -/
def ofList (fs : List CustomFunction) : Registry :=
  fs.foldl (fun r f => (r.register f).1) empty

end Registry

/-- A registration for a while: its name, and the function of that name that
it stands in front of. -/
structure Registration where
  name : String
  shadowed : Option CustomFunction
  named : ∀ f, shadowed = some f → f.name = name

/-- Registers a function for a while. -/
def Registry.hold (r : Registry) (f : CustomFunction) :
    Registry × Registration :=
  let registered := r.register f
  (registered.1, ⟨f.name, registered.2, fun _ => name_of_find?⟩)

/-- Ends a registration: the name stands again for what it stood for when
the registration began. -/
def Registration.release (g : Registration) (r : Registry) : Registry :=
  let r := (r.unregister g.name).1
  match g.shadowed with
  | some f => (r.register f).1
  | none => r

end FilterCriteria
