/-
Custom functions. Of the registry, compilation asks one thing: whether the
name of a called method is registered, and it asks only when there is no
built-in function of that name. What the name stands for it never asks.

So each custom function in a criterion stands for a call that was allowed
(`CompilesTo.callsCustom`): the induction is over the rules, and the only rule
that makes a custom function is that of a function call. In the other
direction, a registry with more names allows no less, and what the names stand
for does not matter (`compileIn_of_contains`): the two compilations correspond,
for a function is asked for by its name alone.

The main statement (`compile_gated`) has both, and that a name that is no
longer registered is refused.
-/
import FilterCriteria.Proofs.Compile.Correspondence
import FilterCriteria.Proofs.Compile.Origin
import FilterCriteria.Proofs.Registry.Bindings

namespace FilterCriteria

open Compile

namespace Expr

-- ====================================================== names of calls

/-- There is a call of a method of this name in the expression. -/
def Calls (e : Expr) (name : String) : Prop :=
  ∃ part method receiver args, part.Occurs e
    ∧ IsCall method receiver args part ∧ method.name = name

variable {env : Environment} {scope : Scope} {e : Expr} {name : String}

/-- There is a call in the expression that is one of the custom function. -/
def CallsCustom (env : Environment) (e : Expr) (name : String) : Prop :=
  ∃ part operands, part.Occurs e
    ∧ IsFunctionCall env part (.custom name) operands

/-- A custom function is called by its name, and only if it is registered and
no built-in function has the name. -/
theorem function_eq_custom {method : String}
    (h : function env method = .ok (.custom name)) :
    method = name ∧ env.registry.contains name = true
      ∧ methodFunction? name = none := by
  unfold function at h
  split at h
  · cases h
  · next hbuiltin =>
    split at h
    · next hcontains =>
      cases h
      exact ⟨rfl, hcontains, hbuiltin⟩
    · cases h

/-- A call that makes a custom function has a registered name, and no built-in
function has it. -/
theorem CallsCustom.allowed (h : CallsCustom env e name) :
    e.Calls name ∧ env.registry.contains name = true
      ∧ methodFunction? name = none := by
  obtain ⟨part, operands, hoccurs, hcall⟩ := h
  cases hcall with
  | direct hcall hmethod hcontains hindexOf htrim hf =>
      obtain ⟨hname, hallowed⟩ := function_eq_custom hf
      exact ⟨⟨part, _, _, _, hoccurs, hcall, hname⟩, hallowed⟩

/-- A custom function in a criterion is that of a call in the expression. -/
theorem CompilesTo.callsCustom {c : Criterion}
    (h : CompilesTo env scope e c) {operands : List Criterion}
    (hoccurs : (Criterion.custom name operands).Occurs c) :
    CallsCustom env e name := by
  cases h.origin hoccurs with
  | plain hc => cases hc
  | custom hpart hcall => exact ⟨_, _, hpart, hcall⟩

-- ==================================================== other registries

/-- The error is about a method that only the second registry has. -/
def NewMethod (fewer more : Registry) (error : CompileError) : Prop :=
  ∃ name, fewer.contains name = false ∧ more.contains name = true
    ∧ error = .method name

/-- A registry with more names has the same functions for methods, and some
for methods that were refused. -/
theorem function_of_contains {evaluator : Evaluator} {fewer more : Registry}
    (hnames : ∀ name, fewer.contains name = true → more.contains name = true)
    (method : String) :
    (Comparison.sameUnless (NewMethod fewer more)).Holds
      (function ⟨fewer, evaluator⟩ method)
      (function ⟨more, evaluator⟩ method) := by
  unfold function
  cases methodFunction? method with
  | some f => exact Or.inl rfl
  | none =>
      cases hfewer : fewer.contains method with
      | true =>
          rw [hnames method hfewer]
          exact Or.inl rfl
      | false =>
          cases hmore : more.contains method with
          | false => exact Or.inl rfl
          | true => exact Or.inr ⟨_, ⟨method, hfewer, hmore, rfl⟩, rfl⟩

/-- Compilation with more names is the same as with fewer, unless that has
refused a method that only the larger registry has. -/
theorem compileIn_of_contains {evaluator : Evaluator} {fewer more : Registry}
    (hnames : ∀ name, fewer.contains name = true → more.contains name = true)
    (scope : Scope) (e : Expr) :
    e.compileIn ⟨fewer, evaluator⟩ scope = e.compileIn ⟨more, evaluator⟩ scope
      ∨ ∃ error, NewMethod fewer more error
        ∧ e.compileIn ⟨fewer, evaluator⟩ scope = .error error := by
  let S : Setting := ⟨evaluator, fewer, more, Eq, .sameUnless _,
    function_of_contains hnames⟩
  have hself : Corresponds S e e := by
    refine corresponds_self (fun p => ?_) (fun p => ?_) e
    · rintro s _ rfl
      rfl
    · rintro s _ rfl name
      exact Or.inl rfl
  exact hself.outcome rfl

/-- The registry decides on custom functions, and on nothing else. Each one
in a criterion is called in the expression, registered, and not the name of a
built-in function, and with the name unregistered the method is refused. A
registry that has the names, whatever they stand for, gives the same
criterion. -/
theorem compile_gated {env : Environment} {e : Expr} {t : Criterion}
    (h : e.compile env = .ok t) :
    (∀ name operands, (Criterion.custom name operands).Occurs t →
        e.Calls name ∧ env.registry.contains name = true
          ∧ methodFunction? name = none
          ∧ e.compile ⟨(env.registry.unregister name).1, env.evaluator⟩
            = .error (.method name))
      ∧ ∀ r : Registry,
        (∀ name, env.registry.contains name = true →
          r.contains name = true) →
        e.compile ⟨r, env.evaluator⟩ = .ok t := by
  constructor
  · intro name operands hoccurs
    have hcalls := (compileIn_eq_ok_iff.mp h).callsCustom hoccurs
    obtain ⟨hcalled, hcontains, hbuiltin⟩ := hcalls.allowed
    refine ⟨hcalled, hcontains, hbuiltin, ?_⟩
    rcases compileIn_of_contains (Registry.contains_of_unregister name) .empty e
      with hsame | ⟨_, ⟨other, hgone, hthere, rfl⟩, hrefused⟩
    · -- the function cannot still be there without its name
      have hstill := compileIn_eq_ok_iff.mp (hsame.trans h)
      obtain ⟨-, hcontains, -⟩ := (hstill.callsCustom hoccurs).allowed
      rw [Registry.contains_unregister_self] at hcontains
      cases hcontains
    · have hother : other = name := by
        by_contra hne
        rw [Registry.contains_unregister_of_ne hne, hthere] at hgone
        cases hgone
      rw [hother] at hrefused
      exact hrefused
  · intro r hnames
    rcases compileIn_of_contains hnames .empty e with hsame | ⟨_, _, herror⟩
    · exact hsame.symm.trans h
    · cases herror.symm.trans h

/-- `c.Name.Like("A%")`, with the function that is there at the start, without
it, and with another one of its name. -/
theorem compile_gated_like :
    let c : Param := ⟨0, "c", .object "Customer"⟩
    let name := Expr.member (.ofParam c) "Name" .string
    let like := Expr.callOn name (.scalar "String" "Like")
      [.constant (.string "A%") .string] .bool
    let e := Expr.lambda [c] like .bool
    let other := CustomFunction.ofResult "Like" .bool fun _ => .ok .null
    let t := Criterion.custom "Like"
      [.property "Name", .literal (.string "A%")]
    e.compile ⟨.initial, .bare⟩ = .ok t ∧ e.Calls "Like"
      ∧ e.compile ⟨(Registry.initial.unregister "Like").1, .bare⟩
        = .error (.method "Like")
      ∧ e.compile ⟨(Registry.initial.register other).1, .bare⟩ = .ok t := by
  intro c name like e other t
  have h : e.compile ⟨.initial, .bare⟩ = .ok t := rfl
  obtain ⟨hcustom, hnames⟩ := compile_gated h
  obtain ⟨hcalls, -, -, hrefused⟩ := hcustom "Like" _ .self
  refine ⟨h, hcalls, hrefused, hnames _ fun name hname => ?_⟩
  unfold Registry.contains
  rw [Registry.find?_register]
  split
  · rfl
  · exact hname

end Expr

end FilterCriteria
