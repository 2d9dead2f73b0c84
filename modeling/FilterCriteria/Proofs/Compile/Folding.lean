/-
Folding and compilation agree on constants. Both look for the constant
parts of an expression, but in different orders: calls and constructions
fold as a whole, members only when their object is closed, arrays compile
element by element, and a cast that keeps the value is skipped. Where no
member is a function and such casts do keep the value (`Transparent`), an
expression that folds compiles to its value, one whose evaluation fails does
not compile for that reason, and, lambdas and quotes apart, nothing else
compiles to a literal.

# Three statements at once

The three are proved together (`Agrees`), for each of them needs the others
at the operands: that a member whose object fails to fold fails too is seen
through what the object compiles to. Most nodes ask the evaluator as a whole
and make no literal otherwise (`agrees_of_foldedOr`), or are no constant and
make no literal at all (`agrees_of_neverLiteral`). What is left are the three
nodes that go their own way: arrays, members and casts.
-/
import FilterCriteria.Proofs.Compile.Rules
import FilterCriteria.Proofs.Eval.Fold

namespace FilterCriteria

open Compile

namespace Expr

-- ========================================================= conditions

/-- The two ways in which compilation may pass by the evaluator do not
occur: no member of an object is a function, and where the evaluator
converts the operand of a cast that leaves no trace, it keeps the value. -/
structure Transparent (ev : Evaluator) (e : Expr) : Prop where
  member_is_read : ∀ object name ty,
    (Expr.member object name ty).Occurs e →
    memberFunction? object.type name = none
  cast_keeps : ∀ operand ty v,
    (Expr.unary .convert operand ty).Occurs e →
    isReferenceCast operand.type ty = true →
    operand.fold ev = .ok (some v) → ev.convert v ty = .ok v

/-- No lambda and no quote is in the expression. -/
structure FirstOrder (e : Expr) : Prop where
  no_lambda : ∀ params body ty, ¬ (Expr.lambda params body ty).Occurs e
  no_quote : ∀ operand ty, ¬ (Expr.unary .quote operand ty).Occurs e

theorem Transparent.child {ev : Evaluator} {c e : Expr}
    (h : e.Transparent ev) (hc : c ∈ e.children) : c.Transparent ev where
  member_is_read object name ty ho :=
    h.member_is_read object name ty (.inside hc ho)
  cast_keeps operand ty v ho := h.cast_keeps operand ty v (.inside hc ho)

theorem FirstOrder.child {c e : Expr} (h : e.FirstOrder)
    (hc : c ∈ e.children) : c.FirstOrder where
  no_lambda params body ty ho := h.no_lambda params body ty (.inside hc ho)
  no_quote operand ty ho := h.no_quote operand ty (.inside hc ho)

-- ========================================================= the agreement

/-- Folding and compilation agree on an expression in a scope. -/
structure Agrees (env : Environment) (scope : Scope) (e : Expr) : Prop where
  compiles : ∀ v, e.fold env.evaluator = .ok (some v) →
    e.compileIn env scope = .ok (.literal v)
  fails : ∀ error, e.fold env.evaluator = .error error →
    ∃ what cause, e.compileIn env scope = .error (.evaluation what cause)
  folds : e.FirstOrder → ∀ v, e.compileIn env scope = .ok (.literal v) →
    e.fold env.evaluator = .ok (some v)

variable {env : Environment} {scope : Scope}

/-- An expression that compiles by folding, or to no literal, agrees. -/
theorem agrees_of_foldedOr {e : Expr} {otherwise : Result}
    (hcompile : e.compileIn env scope = foldedOr env e otherwise)
    (hotherwise : NeverLiteral otherwise) : Agrees env scope e where
  compiles v hv := by rw [hcompile, foldedOr_of_some _ hv]
  fails error herror :=
    ⟨_, _, by rw [hcompile, foldedOr_of_error _ herror]⟩
  folds _ v hv := fold_of_foldedOr hotherwise (hcompile ▸ hv)

/-- An expression that is no constant and compiles to no literal agrees. -/
theorem agrees_of_neverLiteral {e : Expr}
    (hfold : e.fold env.evaluator = .ok none)
    (hcompile : NeverLiteral (e.compileIn env scope)) :
    Agrees env scope e where
  compiles v hv := by rw [hfold] at hv; cases hv
  fails error herror := by rw [hfold] at herror; cases herror
  folds _ v hv := absurd hv (hcompile v)

-- ============================================================== arrays

variable {es : List Expr}

/-- The values of elements that fold are the ones they fold to. -/
theorem elementValues_of_foldAll (hes : ∀ c ∈ es, Agrees env scope c)
    {vs : List Value} (h : foldAll env.evaluator es = .ok (some vs)) :
    elementValues es (compileEach env scope es) = .ok vs := by
  induction es generalizing vs with
  | nil =>
      cases h
      rfl
  | cons e rest ih =>
      rw [foldAll_cons] at h
      obtain ⟨v, hv, h⟩ := onValue_eq_some h
      obtain ⟨ws, hws, h⟩ := onValue_eq_some h
      cases h
      have hhead := (hes e (List.mem_cons_self ..)).compiles v hv
      have htail := ih (fun c hc => hes c (List.mem_cons_of_mem _ hc)) hws
      unfold compileEach elementValues
      rw [hhead, htail]
      rfl

/-- Elements that fail to fold fail to compile: those in front of the first
failure are literals. -/
theorem elementValues_of_foldAll_error (hes : ∀ c ∈ es, Agrees env scope c)
    {error : EvalError} (h : foldAll env.evaluator es = .error error) :
    ∃ what cause, elementValues es (compileEach env scope es)
      = .error (.evaluation what cause) := by
  induction es with
  | nil => cases h
  | cons e rest ih =>
      have hagrees := hes e (List.mem_cons_self ..)
      rw [foldAll_cons] at h
      unfold compileEach elementValues
      rcases onValue_eq_error h with h | ⟨v, hv, h⟩
      · obtain ⟨what, cause, hhead⟩ := hagrees.fails _ h
        rw [hhead]
        exact ⟨what, cause, rfl⟩
      · rcases onValue_eq_error h with h | ⟨ws, -, h⟩
        · obtain ⟨what, cause, htail⟩ :=
            ih (fun c hc => hes c (List.mem_cons_of_mem _ hc)) h
          rw [hagrees.compiles v hv, htail]
          exact ⟨what, cause, rfl⟩
        · cases h

/-- Elements that compile to literals fold to them. -/
theorem foldAll_of_elementValues (hes : ∀ c ∈ es, Agrees env scope c)
    (hfirst : ∀ c ∈ es, c.FirstOrder) {vs : List Value}
    (h : elementValues es (compileEach env scope es) = .ok vs) :
    foldAll env.evaluator es = .ok (some vs) := by
  induction es generalizing vs with
  | nil =>
      cases h
      rfl
  | cons e rest ih =>
      have hmem : e ∈ e :: rest := List.mem_cons_self ..
      unfold compileEach elementValues at h
      obtain ⟨c, hc, h⟩ := bind_eq_ok.mp h
      cases c with
      | literal v =>
          obtain ⟨ws, hws, h⟩ := bind_eq_ok.mp h
          cases h
          have hhead := (hes e hmem).folds (hfirst e hmem) v hc
          have htail := ih (fun c hc => hes c (List.mem_cons_of_mem _ hc))
            (fun c hc => hfirst c (List.mem_cons_of_mem _ hc)) hws
          rw [foldAll_cons, hhead, htail]
          rfl
      | _ => cases h

/-- An array is the literal of the values of its elements. -/
theorem compileIn_newArray (ty : Ty) :
    (Expr.newArray es ty).compileIn env scope
      = elementValues es (compileEach env scope es) >>= fun vs =>
          pure (.literal (.array vs)) := rfl

/-- An array agrees when its elements do. -/
theorem agrees_newArray (ty : Ty) (hes : ∀ c ∈ es, Agrees env scope c) :
    Agrees env scope (.newArray es ty) where
  compiles v h := by
    rw [fold_newArray] at h
    obtain ⟨vs, hvs, h⟩ := onValue_eq_some h
    cases h
    rw [compileIn_newArray, elementValues_of_foldAll hes hvs]
    rfl
  fails error h := by
    rw [fold_newArray] at h
    rcases onValue_eq_error h with h | ⟨vs, -, h⟩
    · obtain ⟨what, cause, hvalues⟩ := elementValues_of_foldAll_error hes h
      refine ⟨what, cause, ?_⟩
      rw [compileIn_newArray, hvalues]
      rfl
    · cases h
  folds hfirst v h := by
    rw [compileIn_newArray] at h
    obtain ⟨vs, hvs, h⟩ := bind_eq_ok.mp h
    cases h
    rw [fold_newArray, foldAll_of_elementValues hes
      (fun c hc => hfirst.child hc) hvs]
    rfl

-- ============================================================= members

/-- A member agrees when its object does. That of a parameter is a
property; of other objects the closed ones fold, and they alone can be
constant. -/
theorem agrees_member {object : Expr} {name : String} (ty : Ty)
    (hread : memberFunction? object.type name = none)
    (hobject : Agrees env scope object) :
    Agrees env scope (.member object name ty) := by
  by_cases hparam : ∃ p pty, object = .param p pty
  · obtain ⟨p, pty, rfl⟩ := hparam
    refine agrees_of_neverLiteral rfl fun v h => ?_
    change paramMember scope p name = _ at h
    unfold paramMember at h
    split at h <;> cases h
  · have hcompile : (Expr.member object name ty).compileIn env scope = _ :=
      member_of_read hparam hread (object.compileIn env scope)
    cases hclosed : object.isClosed with
    | true =>
        rw [hclosed, if_pos rfl] at hcompile
        exact agrees_of_foldedOr hcompile (neverLiteral_error _)
    | false =>
        rw [hclosed, if_neg (by decide)] at hcompile
        -- an object with a parameter in it has no value, but it can fail
        have hopen : ∀ v, object.fold env.evaluator ≠ .ok (some v) := by
          intro v hv
          rw [isClosed_of_fold object v hv] at hclosed
          cases hclosed
        constructor
        · intro v h
          rw [fold_member] at h
          obtain ⟨w, hw, -⟩ := onValue_eq_some h
          exact absurd hw (hopen w)
        · intro error h
          rw [fold_member] at h
          rcases onValue_eq_error h with h | ⟨w, hw, -⟩
          · obtain ⟨what, cause, herror⟩ := hobject.fails _ h
            rw [hcompile, herror]
            exact ⟨what, cause, rfl⟩
          · exact absurd hw (hopen w)
        · intro _ v h
          rw [hcompile] at h
          exact absurd h (NeverLiteral.bind
            (fun c => neverLiteral_memberOf _ name c) v)

-- =============================================================== casts

/-- A cast agrees when its operand does: one that leaves no trace keeps the
value, and any other is folded. -/
theorem agrees_convert {operand : Expr} (ty : Ty)
    (hkeeps : ∀ v, isReferenceCast operand.type ty = true →
      operand.fold env.evaluator = .ok (some v) →
      env.evaluator.convert v ty = .ok v)
    (hoperand : Agrees env scope operand) :
    Agrees env scope (.unary .convert operand ty) := by
  cases hcast : isReferenceCast operand.type ty with
  | true =>
      have hcompile : (Expr.unary .convert operand ty).compileIn env scope
          = operand.compileIn env scope := if_pos hcast
      have hfold : ∀ v, operand.fold env.evaluator = .ok (some v) →
          (Expr.unary .convert operand ty).fold env.evaluator
            = .ok (some v) := by
        intro v hv
        rw [fold_convert, hv]
        show settle (env.evaluator.convert v ty) = _
        rw [hkeeps v hcast hv]
        rfl
      constructor
      · intro v h
        have hsome := h
        rw [fold_convert] at hsome
        obtain ⟨w, hw, -⟩ := onValue_eq_some hsome
        rw [hfold w hw] at h
        cases h
        rw [hcompile, hoperand.compiles v hw]
      · intro error h
        have herror := h
        rw [fold_convert] at herror
        rcases onValue_eq_error herror with herror | ⟨w, hw, -⟩
        · rw [hcompile]
          exact hoperand.fails _ herror
        · rw [hfold w hw] at h
          cases h
      · intro hfirst v h
        rw [hcompile] at h
        exact hfold v (hoperand.folds
          (hfirst.child (List.mem_singleton_self _)) v h)
  | false =>
      refine agrees_of_foldedOr (if_neg (by rw [hcast]; decide)) ?_
      split
      · exact .bind fun _ _ h => by cases h
      · exact neverLiteral_error _

-- ======================================================= all expressions

/-- A call folds, or is no literal. -/
theorem neverLiteral_call (e : Expr) (method : Method)
    (receiver : Option Result) (args : List Expr) (compiled : List Result) :
    NeverLiteral (if method.onSequence then
        sequenceCall env e method.name receiver args compiled
      else functionCall env e method.name receiver compiled) := by
  split
  · exact neverLiteral_sequenceCall _ _ _ _ _ _
  · exact neverLiteral_functionCall _ _ _ _ _

/-- Folding and compilation agree on every expression that meets the two
conditions, by induction over its operands. -/
theorem Transparent.agrees (e : Expr) (he : e.Transparent env.evaluator) :
    Agrees env scope e := by
  induction e using induction_children generalizing scope with
  | step e ih =>
      have hoperand : ∀ c ∈ e.children, Agrees env scope c :=
        fun c hc => ih c hc (he.child hc)
      cases e with
      | constant v ty =>
          refine ⟨fun w h => ?_, fun error h => ?_, fun _ w h => ?_⟩
          · cases h
            rfl
          · cases h
          · cases h
            rfl
      | param p ty => exact agrees_of_neverLiteral rfl (neverLiteral_error _)
      | staticMember owner name ty =>
          exact agrees_of_foldedOr rfl (neverLiteral_error _)
      | member object name ty =>
          exact agrees_member ty (he.member_is_read object name ty .self)
            (hoperand object (List.mem_singleton_self _))
      | binary op left right ty =>
          exact agrees_of_neverLiteral rfl (neverLiteral_binary _ _ _)
      | unary op operand ty =>
          cases op with
          | convert =>
              exact agrees_convert ty
                (fun v => he.cast_keeps operand ty v .self)
                (hoperand operand (List.mem_singleton_self _))
          | quote =>
              refine ⟨fun v h => ?_, fun error h => ?_, fun hfirst => ?_⟩
              · cases h
              · cases h
              · exact absurd .self (hfirst.no_quote operand ty)
          | not | negate =>
              exact agrees_of_neverLiteral rfl
                (.bind fun _ _ h => by cases h)
          | unaryPlus | arrayLength | typeAs =>
              exact agrees_of_neverLiteral rfl (neverLiteral_error _)
      | call method args ty =>
          exact agrees_of_foldedOr rfl (neverLiteral_call _ _ _ _ _)
      | callOn receiver method args ty =>
          exact agrees_of_foldedOr rfl (neverLiteral_call _ _ _ _ _)
      | conditional test ifTrue ifFalse ty =>
          exact agrees_of_neverLiteral rfl (neverLiteral_conditional _ _ _ _)
      | construct args ty =>
          exact agrees_of_foldedOr rfl (neverLiteral_error _)
      | newArray elements ty => exact agrees_newArray ty hoperand
      | lambda params body ty =>
          refine ⟨fun v h => ?_, fun error h => ?_, fun hfirst => ?_⟩
          · cases h
          · cases h
          · exact absurd .self (hfirst.no_lambda params body ty)
      | other name operands ty =>
          exact agrees_of_neverLiteral rfl (neverLiteral_error _)

/-- Folding and compilation agree. In every scope, what folds compiles to
its value, what fails to fold fails to compile, for the evaluation; and
without lambdas and quotes, what compiles to a literal folds to its
value. -/
theorem compileIn_agrees_fold (env : Environment) (scope : Scope) (e : Expr)
    (he : e.Transparent env.evaluator) :
    (∀ v, e.fold env.evaluator = .ok (some v) →
      e.compileIn env scope = .ok (.literal v))
    ∧ (∀ error, e.fold env.evaluator = .error error →
      ∃ reason, e.compileIn env scope = .error reason
        ∧ reason.kind = .evaluation)
    ∧ (e.FirstOrder → ∀ v, e.compileIn env scope = .ok (.literal v) →
      e.fold env.evaluator = .ok (some v)) := by
  have hagrees : Agrees env scope e := he.agrees e
  refine ⟨hagrees.compiles, fun error h => ?_, hagrees.folds⟩
  obtain ⟨what, cause, hcompile⟩ := hagrees.fails error h
  exact ⟨_, hcompile, rfl⟩

/-- `new [] { (Object) limit, 1 }`, with a captured variable. -/
def capturedArray : Expr :=
  .newArray [.unary .convert (.ofCaptured "limit" (.int 5)) .anyObject,
    .ofValue (.int 1)] (.sequence .anyObject)

/-- All that is in the array. -/
theorem occurs_capturedArray {part : Expr} (h : part.Occurs capturedArray) :
    part = capturedArray
      ∨ part = .unary .convert (.ofCaptured "limit" (.int 5)) .anyObject
      ∨ part = .ofCaptured "limit" (.int 5)
      ∨ ∃ v ty, part = .constant v ty := by
  simp only [capturedArray, ofCaptured, ofHolder, ofValue, occurs_newArray,
    occurs_unary, occurs_member, occurs_constant, List.mem_cons,
    List.not_mem_nil, or_false, exists_eq_or_imp, exists_eq_left] at h
  rcases h with h | (h | h | h) | h
  · exact Or.inl h
  · exact Or.inr (Or.inl h)
  · exact Or.inr (Or.inr (Or.inl h))
  · exact Or.inr (Or.inr (Or.inr ⟨_, _, h⟩))
  · exact Or.inr (Or.inr (Or.inr ⟨_, _, h⟩))

theorem transparent_capturedArray :
    capturedArray.Transparent Evaluator.bare where
  member_is_read object name ty h := by
    rcases occurs_capturedArray h with h | h | h | ⟨v, ty, h⟩
    · cases h
    · cases h
    · cases h
      rfl
    · cases h
  cast_keeps operand ty v h := by
    rcases occurs_capturedArray h with h | h | h | ⟨v, ty, h⟩
    · cases h
    · cases h
      intro _ hfold
      cases hfold
      rfl
    · cases h
    · cases h

/-- The array meets the conditions, though it has a member and a cast in it,
and compiles to its value. -/
theorem compileIn_capturedArray :
    capturedArray.Transparent Evaluator.bare
      ∧ capturedArray.fold .bare = .ok (some (.array [.int 5, .int 1]))
      ∧ capturedArray.compileIn ⟨.empty, .bare⟩ .empty
        = .ok (.literal (.array [.int 5, .int 1])) := by
  have hfold : capturedArray.fold .bare
      = .ok (some (.array [.int 5, .int 1])) := by rfl
  refine ⟨transparent_capturedArray, hfold, ?_⟩
  exact (compileIn_agrees_fold ⟨.empty, .bare⟩ .empty capturedArray
    transparent_capturedArray).1 _ hfold

end Expr

end FilterCriteria
