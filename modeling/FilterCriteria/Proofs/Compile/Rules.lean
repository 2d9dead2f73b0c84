/-
What the rules of compilation make of the results of their parts: how a
result comes out of others in a row, what folding decides, and which rules
never make a literal.

A rule asks for its parts one after the other and stops at the first error,
so a result of a rule is taken apart with one lemma (`bind_eq_ok`), and its
error with another one (`bind_eq_error`). Rules that ask the evaluator first
have three ways to go on, and `foldedOr_eq_ok` says which of them succeed.

That a rule never makes a literal (`NeverLiteral`) is what tells constants
from everything else: where it holds, a literal can only have come from the
evaluator (`fold_of_foldedOr`). The two lemmas on members, `member_of_read` and
`member_of_function`, say which of their rules applies to an object that is no
parameter.
-/
import FilterCriteria.Compile

namespace FilterCriteria

-- ======================================================== in a row

/-- What follows on a result is there if the result is and the rest is. -/
theorem bind_eq_ok {ε α β : Type} {x : Except ε α} {f : α → Except ε β}
    {b : β} : (x >>= f) = .ok b ↔ ∃ a, x = .ok a ∧ f a = .ok b := by
  constructor
  · intro h
    cases x with
    | error e => cases h
    | ok a => exact ⟨a, rfl, h⟩
  · rintro ⟨a, rfl, h⟩
    exact h

/-- What follows on a result fails if the result does, or else the rest. -/
theorem bind_eq_error {ε α β : Type} {x : Except ε α} {f : α → Except ε β}
    {e : ε} :
    (x >>= f) = .error e ↔ x = .error e ∨ ∃ a, x = .ok a ∧ f a = .error e := by
  constructor
  · intro h
    cases x with
    | error d =>
        cases h
        exact Or.inl rfl
    | ok a => exact Or.inr ⟨a, rfl, h⟩
  · rintro (rfl | ⟨a, rfl, h⟩)
    · rfl
    · exact h

namespace Compile

variable {env : Environment} {e : Expr}

-- ============================================================= folding

theorem foldedOr_of_some {v : Value} (otherwise : Result)
    (h : e.fold env.evaluator = .ok (some v)) :
    foldedOr env e otherwise = .ok (.literal v) := by
  unfold foldedOr fold
  rw [h]
  rfl

theorem foldedOr_of_none (otherwise : Result)
    (h : e.fold env.evaluator = .ok none) :
    foldedOr env e otherwise = otherwise := by
  unfold foldedOr fold
  rw [h]
  rfl

/-- What fails to fold is reported, with the text of the expression. -/
theorem foldedOr_of_error {error : EvalError} (otherwise : Result)
    (h : e.fold env.evaluator = .error error) :
    foldedOr env e otherwise = .error (.evaluation e.text error) := by
  unfold foldedOr fold
  rw [h]
  rfl

/-- What is folded first has a criterion if it folds, or if it is not
constant and has one otherwise. -/
theorem foldedOr_eq_ok {otherwise : Result} {c : Criterion} :
    foldedOr env e otherwise = .ok c
      ↔ (∃ v, e.fold env.evaluator = .ok (some v) ∧ c = .literal v)
        ∨ (e.fold env.evaluator = .ok none ∧ otherwise = .ok c) := by
  constructor
  · intro h
    cases hfold : e.fold env.evaluator with
    | error error =>
        rw [foldedOr_of_error _ hfold] at h
        cases h
    | ok folded =>
        cases folded with
        | none =>
            rw [foldedOr_of_none _ hfold] at h
            exact Or.inr ⟨rfl, h⟩
        | some v =>
            rw [foldedOr_of_some _ hfold] at h
            cases h
            exact Or.inl ⟨v, rfl, rfl⟩
  · rintro (⟨v, hv, rfl⟩ | ⟨hnone, h⟩)
    · exact foldedOr_of_some _ hv
    · rw [foldedOr_of_none _ hnone, h]

-- ============================================================ literals

/-- The result is no literal, if there is one. -/
def NeverLiteral (r : Result) : Prop :=
  ∀ v, r ≠ .ok (.literal v)

/-- An error is no literal. -/
theorem neverLiteral_error (error : CompileError) :
    NeverLiteral (.error error) :=
  fun _ h => by cases h

/-- A result that is something else in each case is no literal. -/
theorem NeverLiteral.bind {α : Type} {x : Except CompileError α}
    {f : α → Result} (h : ∀ a, NeverLiteral (f a)) :
    NeverLiteral (x >>= f) := by
  intro v hv
  obtain ⟨a, -, ha⟩ := bind_eq_ok.mp hv
  exact h a v ha

/-- Where nothing else makes a literal, folding has made it. -/
theorem fold_of_foldedOr {otherwise : Result} {v : Value}
    (hotherwise : NeverLiteral otherwise)
    (h : foldedOr env e otherwise = .ok (.literal v)) :
    e.fold env.evaluator = .ok (some v) := by
  cases hfold : e.fold env.evaluator with
  | error error =>
      rw [foldedOr_of_error _ hfold] at h
      cases h
  | ok folded =>
      cases folded with
      | none =>
          rw [foldedOr_of_none _ hfold] at h
          exact absurd h (hotherwise v)
      | some w =>
          rw [foldedOr_of_some _ hfold] at h
          cases h
          rfl

/-- The member of a closed object is folded, that of another one is a part
of it. -/
theorem member_of_read {scope : Scope} {object : Expr} {name : String}
    (hparam : ¬ ∃ p ty, object = .param p ty)
    (hread : memberFunction? object.type name = none) (compiled : Result) :
    member env scope e object name compiled
      = if object.isClosed then foldedOr env e (.error (.expression e))
        else compiled >>= memberOf e name := by
  unfold member
  rw [hread]
  split
  · exact absurd ⟨_, _, rfl⟩ hparam
  · next h => cases h
  · rfl

/-- The member that is a function is the function of its object. -/
theorem member_of_function {scope : Scope} {object : Expr} {name : String}
    {f : Criterion.Builtin} (hparam : ¬ ∃ p ty, object = .param p ty)
    (hf : memberFunction? object.type name = some f) (compiled : Result) :
    member env scope e object name compiled
      = compiled >>= fun c => pure (.builtin f [c]) := by
  unfold member
  rw [hf]
  split
  · exact absurd ⟨_, _, rfl⟩ hparam
  · next h =>
    cases h
    rfl
  · next h => cases h

/-- The member of what an object has become is a path or an aggregate. -/
theorem neverLiteral_memberOf (e : Expr) (name : String) (c : Criterion) :
    NeverLiteral (memberOf e name c) := by
  intro v h
  unfold memberOf at h
  split at h <;> cases h

/-- A function is no literal, even if all its operands are: it would have been
folded before. -/
theorem neverLiteral_functionCall (env : Environment) (e : Expr)
    (name : String) (receiver : Option Result) (args : List Result) :
    NeverLiteral (functionCall env e name receiver args) := by
  unfold functionCall
  split
  · unfold indexOf
    split
    · exact .bind fun _ => .bind fun _ => .bind fun _ _ h => by cases h
    · exact neverLiteral_error _
  · split
    · exact neverLiteral_error _
    · exact .bind fun _ => .bind fun _ _ h => by cases h

/-- The test for an element stays a test. -/
theorem neverLiteral_membershipCall (e : Expr) (args : List Expr)
    (compiled : List Result) : NeverLiteral (membershipCall e args compiled) := by
  unfold membershipCall
  split
  · refine .bind fun probe => .bind fun c => ?_
    unfold membership
    split
    · split
      · exact fun _ h => by cases h
      · exact neverLiteral_error _
    · exact neverLiteral_error _
  · exact neverLiteral_error _

theorem neverLiteral_aggregateCall (e : Expr) (kind : Criterion.Aggregate)
    (role : LambdaRole) (args : List Expr) (compiled : List Result) :
    NeverLiteral (aggregateCall e kind role args compiled) := by
  unfold aggregateCall
  split
  · refine .bind fun c => .bind fun r => .bind fun f v h => ?_
    unfold nextStep at h
    cases role <;> cases h
  · exact neverLiteral_error _

/-- No method on sequences makes a literal, whichever of the three it is. -/
theorem neverLiteral_sequenceCall (env : Environment) (e : Expr)
    (name : String) (receiver : Option Result) (args : List Expr)
    (compiled : List Result) :
    NeverLiteral (sequenceCall env e name receiver args compiled) := by
  unfold sequenceCall
  split
  · exact neverLiteral_membershipCall _ _ _
  · split
    · exact neverLiteral_aggregateCall _ _ _ _ _
    · exact neverLiteral_functionCall _ _ _ _ _

theorem neverLiteral_binary (op : Expr.BinaryOp) (left right : Result) :
    NeverLiteral (binary op left right) := by
  unfold binary
  split
  · exact .bind fun _ => .bind fun _ _ h => by cases h
  · split
    · exact .bind fun _ => .bind fun _ _ h => by cases h
    · exact neverLiteral_error _

theorem neverLiteral_conditional (alternative : Expr)
    (test yes no : Result) :
    NeverLiteral (conditional alternative test yes no) :=
  .bind fun _ => .bind fun _ => .bind fun _ _ h => by cases h

end Compile

end FilterCriteria
