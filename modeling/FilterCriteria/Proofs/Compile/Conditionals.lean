/-
Chains of conditionals. Where the alternative of a conditional is a
conditional again, its operands go on in the same list, so a whole chain
compiles to one choice: the tests and the branches in turn, and at the end
the first alternative that is no conditional. Conditionals in other places,
as tests or as branches, stay operands of their own.

The chain of an expression is its arms and its fallback (`arms`, `fallback`),
and `choices` is the list of operands that they make. Proofs about it go by
induction over the alternatives alone (`induction_alternative`), not over all
operands.

# The statement

The main statement (`compileIn_conditional_iff`) says what comes out, which
error is reported where nothing does, and that the choice is the one that
the nested conditionals make: `picked` runs the flat choice and `chosen` the
nested conditionals, over any reading of the operands, and they agree.
-/
import FilterCriteria.Proofs.Compile.Calls
import FilterCriteria.Proofs.Compile.Correspondence

namespace FilterCriteria

open Compile

namespace Expr

-- ========================================================== the chain

/-- The tests of a chain of conditionals, each with its branch. -/
def arms : Expr → List (Expr × Expr)
  | .conditional test yes no _ => (test, yes) :: no.arms
  | _ => []

/-- What a chain of conditionals ends with. -/
def fallback : Expr → Expr
  | .conditional _ _ no _ => no.fallback
  | e => e

/-- The operands of a chain of conditionals: each test and its branch, and
what the chain ends with. -/
def choices (e : Expr) : List Expr :=
  e.arms.flatMap (fun arm => [arm.1, arm.2]) ++ [e.fallback]

/-- The value of nested conditionals, given the values of the expressions in
them: the branch if the test holds, and the alternative otherwise. -/
def chosen {D : Type} (holds : D → Bool) (value : Expr → D) : Expr → D
  | .conditional test yes no _ =>
    if holds (value test) then value yes else no.chosen holds value
  | e => value e

/-- A conditional puts its test and its first branch in front of what its
alternative chooses from. -/
theorem choices_conditional (test yes no : Expr) (ty : Ty) :
    (Expr.conditional test yes no ty).choices = test :: yes :: no.choices :=
  rfl

theorem choices_of_isConditional {e : Expr} (h : e.isConditional = false) :
    e.choices = [e] := by
  cases e with
  | conditional => cases h
  | _ => rfl

theorem chosen_of_isConditional {D : Type} {holds : D → Bool}
    {value : Expr → D} {e : Expr} (h : e.isConditional = false) :
    e.chosen holds value = value e := by
  cases e with
  | conditional => cases h
  | _ => rfl

/-- What holds of every expression that is no conditional, and of each
conditional whose alternative it holds of, holds of all expressions. -/
theorem induction_alternative {P : Expr → Prop}
    (last : ∀ e : Expr, e.isConditional = false → P e)
    (next : ∀ test yes no ty, P no → P (.conditional test yes no ty))
    (e : Expr) : P e := by
  induction e using fallback.induct with
  | case1 test yes no ty ih => exact next test yes no ty ih
  | case2 e h =>
      refine last e ?_
      cases e with
      | conditional test yes no ty => exact absurd rfl (h test yes no ty)
      | _ => rfl

/-- The chain goes as far as there are conditionals. -/
theorem isConditional_fallback (e : Expr) :
    e.fallback.isConditional = false := by
  induction e using induction_alternative with
  | last e h =>
      cases e with
      | conditional => cases h
      | _ => rfl
  | next test yes no ty ih => exact ih

theorem length_choices (e : Expr) :
    e.choices.length = 2 * e.arms.length + 1 := by
  induction e using induction_alternative with
  | last e h =>
      cases e with
      | conditional => cases h
      | _ => rfl
  | next test yes no ty ih =>
      rw [choices_conditional, List.length_cons, List.length_cons, ih]
      simp only [arms, List.length_cons]
      omega

-- ======================================================== compilation

/-- A conditional asks for its operands in a row, where those of its
alternative are the branches that this has. -/
theorem conditional_eq_inOrder {alternative : Expr} {test yes no : Result}
    {rest : List Result}
    (h : inOrder rest = no >>= fun n => pure (branches alternative n)) :
    Compile.conditional alternative test yes no
      = inOrder (test :: yes :: rest) >>= fun cs =>
          pure (.builtin .iif cs) := by
  unfold Compile.conditional inOrder inOrder
  rw [h]
  cases test with
  | error error => rfl
  | ok t =>
      cases yes with
      | error error => rfl
      | ok y => cases no <;> rfl

variable {env : Environment} {scope : Scope}

/-- The operands of a chain, in a row, are the branches that the chain has as
an alternative. -/
theorem inOrder_choices (e : Expr) :
    inOrder (compileEach env scope e.choices)
      = e.compileIn env scope >>= fun c => pure (branches e c) := by
  induction e using induction_alternative with
  | last e h =>
      rw [choices_of_isConditional h]
      simp only [branches_of_isConditional h]
      rfl
  | next test yes no ty ih =>
      have hcompile : (Expr.conditional test yes no ty).compileIn env scope
          = _ := conditional_eq_inOrder ih
      rw [hcompile, choices_conditional]
      change inOrder (_ :: _ :: _) = inOrder (_ :: _ :: _) >>= _ >>= _
      cases inOrder (test.compileIn env scope :: yes.compileIn env scope
        :: compileEach env scope no.choices) <;> rfl

/-- A chain of conditionals is one choice among its operands. -/
theorem compileIn_conditional (test yes no : Expr) (ty : Ty) :
    (Expr.conditional test yes no ty).compileIn env scope
      = inOrder (compileEach env scope
          (Expr.conditional test yes no ty).choices) >>= fun cs =>
            pure (.builtin .iif cs) :=
  conditional_eq_inOrder (inOrder_choices no)

-- =========================================================== meaning

/-- What a choice among data comes to: the datum behind the first test that
holds, or the last one. -/
def picked {D : Type} (holds : D → Bool) : List D → Option D
  | [] => none
  | [otherwise] => some otherwise
  | test :: branch :: rest =>
    if holds test then some branch else picked holds rest

/-- Among the values of its operands, the choice comes to the value of the
nested conditionals. -/
theorem picked_choices {D : Type} (holds : D → Bool) (value : Expr → D)
    (e : Expr) :
    picked holds (e.choices.map value) = some (e.chosen holds value) := by
  induction e using induction_alternative with
  | last e h =>
      rw [choices_of_isConditional h, chosen_of_isConditional h]
      rfl
  | next test yes no ty ih =>
      rw [choices_conditional]
      unfold chosen
      rw [apply_ite some, ← ih]
      rfl

/-- Criteria that mean what their expressions do, one by one, mean the same
in a row. -/
theorem map_eq_map_of_forall₂ {D : Type} {es : List Expr}
    {cs : List Criterion} {source : Expr → D} {target : Criterion → D}
    (h : List.Forall₂ (fun a d => a.compileIn env scope = .ok d) es cs)
    (hagree : ∀ a ∈ es, ∀ d, a.compileIn env scope = .ok d →
      target d = source a) :
    cs.map target = es.map source := by
  induction h with
  | nil => rfl
  | cons hd _ ih =>
      obtain ⟨hhead, htail⟩ := List.forall_mem_cons.mp hagree
      rw [List.map_cons, List.map_cons, hhead _ hd, ih htail]

-- ========================================================== all of it

/-- A chain of conditionals compiles exactly if all its operands do, to one
choice among their criteria, in their order; otherwise it fails as the first
operand that does. Whatever the operands mean, the branch of the first test
that holds in this choice is what the nested conditionals come to. -/
theorem compileIn_conditional_iff (env : Environment) (scope : Scope)
    (test yes no : Expr) (ty : Ty) :
    let e := Expr.conditional test yes no ty
    e.fallback.isConditional = false
      ∧ e.choices.length = 2 * e.arms.length + 1
      ∧ (∀ c, e.compileIn env scope = .ok c
        ↔ ∃ cs, List.Forall₂ (fun a d => a.compileIn env scope = .ok d)
            e.choices cs ∧ c = .builtin .iif cs)
      ∧ (∀ error, e.compileIn env scope = .error error
        ↔ FirstFails env scope e.choices error)
      ∧ ∀ {D : Type} (holds : D → Bool) (source : Expr → D)
          (target : Criterion → D) (cs : List Criterion),
        e.compileIn env scope = .ok (.builtin .iif cs) →
        (∀ a ∈ e.choices, ∀ d, a.compileIn env scope = .ok d →
          target d = source a) →
        picked holds (cs.map target) = some (e.chosen holds source) := by
  intro e
  have hcompile : e.compileIn env scope = _ :=
    compileIn_conditional test yes no ty
  have hok : ∀ c, e.compileIn env scope = .ok c
      ↔ ∃ cs, List.Forall₂ (fun a d => a.compileIn env scope = .ok d)
          e.choices cs ∧ c = .builtin .iif cs := by
    intro c
    rw [hcompile, bind_eq_ok]
    refine exists_congr fun cs => ?_
    rw [inOrder_compileEach]
    exact and_congr_right fun _ => ⟨fun h => by cases h; rfl, fun h => h ▸ rfl⟩
  refine ⟨isConditional_fallback e, length_choices e, hok, fun error => ?_, ?_⟩
  · rw [hcompile, bind_eq_error, inOrder_compileEach_eq_error]
    exact or_iff_left (by rintro ⟨cs, -, ⟨⟩⟩)
  · intro D holds source target cs h hagree
    obtain ⟨ds, hds, heq⟩ := (hok _).mp h
    cases heq
    rw [map_eq_map_of_forall₂ hds hagree]
    exact picked_choices holds source e

/-- `c.Abroad ? "air" : c.Far ? (c.Urgent ? "rail" : "road") : "foot"`: the
alternative goes on in the choice, the conditional branch does not. -/
theorem compileIn_conditional_iff_shipping :
    let env : Environment := ⟨.empty, .bare⟩
    let c : Param := ⟨0, "c", .object "Customer"⟩
    let read := fun name => Expr.member (.ofParam c) name .bool
    let text := fun name => Expr.ofValue (.string name)
    let literal := fun name => Criterion.literal (.string name)
    let speed := Expr.conditional (read "Urgent") (text "rail") (text "road")
      .string
    let e := Expr.conditional (read "Abroad") (text "air")
      (.conditional (read "Far") speed (text "foot") .string) .string
    let choice := Criterion.builtin .iif
      [.property "Urgent", literal "rail", literal "road"]
    let cs := [.property "Abroad", literal "air", .property "Far", choice,
      literal "foot"]
    e.compileIn env ⟨[c]⟩ = .ok (.builtin .iif cs)
      ∧ picked (fun d => d.path? == some "Far") cs = some choice := by
  intro env c read text literal speed e choice cs
  obtain ⟨-, -, hok, -, hpicked⟩ := compileIn_conditional_iff env ⟨[c]⟩
    (read "Abroad") (text "air")
    (.conditional (read "Far") speed (text "foot") .string) .string
  have hcompile : e.compileIn env ⟨[c]⟩ = .ok (.builtin .iif cs) :=
    (hok _).mpr ⟨cs, .cons rfl (.cons rfl (.cons rfl (.cons rfl
      (.cons rfl .nil)))), rfl⟩
  -- read every operand as its own criterion
  let source : Expr → Criterion := fun a =>
    (a.compileIn env ⟨[c]⟩).toOption.getD (.literal .null)
  have hchosen := hpicked (fun d => d.path? == some "Far") source id cs hcompile
    fun a _ d hd => by simp [source, hd, Except.toOption]
  rw [List.map_id] at hchosen
  exact ⟨hcompile, hchosen⟩

end Expr

end FilterCriteria
