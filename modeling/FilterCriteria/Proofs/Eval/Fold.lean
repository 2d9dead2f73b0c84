/-
Folding, one equation for each kind of expression that folds, so that no
proof about it has to open the recursion: the operands fold, and then the
evaluator is asked about their values (`onValue`).

Folding has three ends. A value is there, the expression is not constant, or
the evaluation fails; and an operand that is not constant makes the whole not
constant before anything further is asked. So what has a value has operands
that have values (`fold_of_mem_children`), and it has no parameter in it
(`isClosed_of_fold`). The converse fails: what is closed need not be constant,
as the evaluator may have no binding for it.
-/
import FilterCriteria.Eval.Evaluator
import FilterCriteria.Proofs.Expr.Children

namespace FilterCriteria

-- =========================================================== on a value

/-- Goes on with the value of what has folded. What is no constant stays
none, and a failure stays a failure. -/
def onValue {ε α β : Type} (x : Except ε (Option α))
    (f : α → Except ε (Option β)) : Except ε (Option β) :=
  match x with
  | .ok (some a) => f a
  | .ok none => .ok none
  | .error e => .error e

/-- There is a value exactly by way of one. -/
theorem onValue_eq_some {ε α β : Type} {x : Except ε (Option α)}
    {f : α → Except ε (Option β)} {b : β}
    (h : onValue x f = .ok (some b)) :
    ∃ a, x = .ok (some a) ∧ f a = .ok (some b) := by
  unfold onValue at h
  split at h
  · next a => exact ⟨a, rfl, h⟩
  · cases h
  · cases h

/-- An error comes from the operand, or from what is asked about its value. -/
theorem onValue_eq_error {ε α β : Type} {x : Except ε (Option α)}
    {f : α → Except ε (Option β)} {error : ε}
    (h : onValue x f = .error error) :
    x = .error error ∨ ∃ a, x = .ok (some a) ∧ f a = .error error := by
  unfold onValue at h
  split at h
  · next a => exact Or.inr ⟨a, rfl, h⟩
  · cases h
  · cases h
    exact Or.inl rfl

namespace Expr

variable (ev : Evaluator)

-- ============================================================ equations

/-- The member of a constant object is read from its value. -/
theorem fold_member (object : Expr) (name : String) (ty : Ty) :
    (Expr.member object name ty).fold ev
      = onValue (object.fold ev) fun v => settle (ev.readMember v name) := by
  rw [fold]
  rcases object.fold ev with _ | _ | _ <;> rfl

/-- A call asks the evaluator about the values of all its arguments. -/
theorem fold_call (method : Method) (args : List Expr) (ty : Ty) :
    (Expr.call method args ty).fold ev
      = onValue (foldAll ev args) fun vs =>
          settle (ev.call method none vs) := by
  rw [fold]
  rcases foldAll ev args with _ | _ | _ <;> rfl

/-- A receiver folds before the arguments do. -/
theorem fold_callOn (receiver : Expr) (method : Method) (args : List Expr)
    (ty : Ty) :
    (Expr.callOn receiver method args ty).fold ev
      = onValue (receiver.fold ev) fun v => onValue (foldAll ev args) fun vs =>
          settle (ev.call method (some v) vs) := by
  rw [fold]
  rcases receiver.fold ev with _ | _ | _ <;>
    rcases foldAll ev args with _ | _ | _ <;> rfl

theorem fold_construct (args : List Expr) (ty : Ty) :
    (Expr.construct args ty).fold ev
      = onValue (foldAll ev args) fun vs => settle (ev.construct ty vs) := by
  rw [fold]
  rcases foldAll ev args with _ | _ | _ <;> rfl

/-- An array of constants is always one, without asking the evaluator. -/
theorem fold_newArray (elements : List Expr) (ty : Ty) :
    (Expr.newArray elements ty).fold ev
      = onValue (foldAll ev elements) fun vs => .ok (some (.array vs)) := by
  rw [fold]
  rcases foldAll ev elements with _ | _ | _ <;> rfl

/-- A cast asks the evaluator to convert the value, also where it leaves no
trace in a criterion. -/
theorem fold_convert (operand : Expr) (ty : Ty) :
    (Expr.unary .convert operand ty).fold ev
      = onValue (operand.fold ev) fun v => settle (ev.convert v ty) := by
  rw [fold]
  rcases operand.fold ev with _ | _ | _ <;> rfl

/-- Several expressions fold from the left to the right, up to the first one
that is not constant. -/
theorem foldAll_cons (e : Expr) (rest : List Expr) :
    foldAll ev (e :: rest)
      = onValue (e.fold ev) fun v => onValue (foldAll ev rest) fun vs =>
          .ok (some (v :: vs)) := by
  rw [foldAll]
  rcases e.fold ev with _ | _ | _ <;>
    rcases foldAll ev rest with _ | _ | _ <;> rfl

variable {ev}

-- ============================================================ operands

/-- A list folds if each of its expressions does. -/
theorem fold_of_mem_foldAll {es : List Expr} {vs : List Value}
    (h : foldAll ev es = .ok (some vs)) :
    ∀ a ∈ es, ∃ v, a.fold ev = .ok (some v) := by
  induction es generalizing vs with
  | nil => nofun
  | cons e rest ih =>
      rw [foldAll_cons] at h
      obtain ⟨v, hv, h⟩ := onValue_eq_some h
      obtain ⟨ws, hws, -⟩ := onValue_eq_some h
      exact List.forall_mem_cons.mpr ⟨⟨v, hv⟩, ih hws⟩

/-- What folds has operands that do. -/
theorem fold_of_mem_children {e : Expr} {v : Value}
    (h : e.fold ev = .ok (some v)) :
    ∀ a ∈ e.children, ∃ w, a.fold ev = .ok (some w) := by
  cases e with
  | param | binary | conditional | lambda | other => cases h
  | constant | staticMember => nofun
  | member object name ty =>
      rw [fold_member] at h
      obtain ⟨w, hw, -⟩ := onValue_eq_some h
      exact List.forall_mem_singleton.mpr ⟨w, hw⟩
  | unary op operand ty =>
      cases op with
      | convert =>
          rw [fold_convert] at h
          obtain ⟨w, hw, -⟩ := onValue_eq_some h
          exact List.forall_mem_singleton.mpr ⟨w, hw⟩
      | _ => cases h
  | call method args ty =>
      rw [fold_call] at h
      obtain ⟨vs, hvs, -⟩ := onValue_eq_some h
      exact fold_of_mem_foldAll hvs
  | construct args ty =>
      rw [fold_construct] at h
      obtain ⟨vs, hvs, -⟩ := onValue_eq_some h
      exact fold_of_mem_foldAll hvs
  | newArray elements ty =>
      rw [fold_newArray] at h
      obtain ⟨vs, hvs, -⟩ := onValue_eq_some h
      exact fold_of_mem_foldAll hvs
  | callOn receiver method args ty =>
      rw [fold_callOn] at h
      obtain ⟨w, hw, h⟩ := onValue_eq_some h
      obtain ⟨vs, hvs, -⟩ := onValue_eq_some h
      exact List.forall_mem_cons.mpr ⟨⟨w, hw⟩, fold_of_mem_foldAll hvs⟩

-- ============================================================== closed

/-- Expressions that are closed each are closed together. -/
theorem allClosed_of_mem {es : List Expr}
    (h : ∀ a ∈ es, a.isClosed = true) : allClosed es = true := by
  induction es with
  | nil => rfl
  | cons e rest ih =>
      obtain ⟨he, hrest⟩ := List.forall_mem_cons.mp h
      unfold allClosed
      rw [he, ih hrest]
      rfl

/-- What folds has no parameter. -/
theorem isClosed_of_fold (e : Expr) :
    ∀ v, e.fold ev = .ok (some v) → e.isClosed = true := by
  induction e using induction_children with
  | step e ih =>
      intro v h
      have hchildren : ∀ a ∈ e.children, a.isClosed = true := by
        intro a ha
        obtain ⟨w, hw⟩ := fold_of_mem_children h a ha
        exact ih a ha w hw
      cases e with
      | param | binary | conditional | lambda | other => cases h
      | constant | staticMember => rfl
      | member object name ty =>
          exact hchildren object (List.mem_singleton_self _)
      | unary op operand ty =>
          exact hchildren operand (List.mem_singleton_self _)
      | call | construct | newArray => exact allClosed_of_mem hchildren
      | callOn receiver method args ty =>
          obtain ⟨hreceiver, hargs⟩ := List.forall_mem_cons.mp hchildren
          unfold isClosed
          rw [hreceiver, allClosed_of_mem hargs]
          rfl

end Expr

end FilterCriteria
