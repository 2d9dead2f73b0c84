/-
Expressions that compilation cannot tell apart. Around an operand, the
rules look at its static type, whether it is a parameter or a conditional,
whether it is closed, what it folds to and what it compiles to; operands
that agree in all of this are interchangeable, and so are the expressions
around them. Most places do not even look at the type or the kind of the
operand (`Frame.looksCloser`).

# Surroundings

An expression with a hole is a path of frames, one node each. A frame around
operands that correspond makes expressions that correspond
(`Corresponds.fillFrame`), so by induction over the path the whole does
(`Corresponds.fill`). Results are compared up to the operands that an error
names: an error of the exchanged operand names it, and there the two
expressions are not the same.

The main statement (`compileIn_fill_constant`): an evaluated call,
construction or static member may be replaced by its value anywhere.
-/
import FilterCriteria.Host
import FilterCriteria.Proofs.Compile.Correspondence
import FilterCriteria.Proofs.Expr.Context

namespace FilterCriteria

open Compile

namespace Expr

-- ============================================================ contexts

/-- Does the rule for the node look at more of its operand than whether that
is closed, what it folds to and what it compiles to? -/
def Frame.looksCloser : Frame → Bool
  | .object .. | .unaryOperand .convert _ | .alternative .. => true
  | _ => false

/-- One compilation beside itself. -/
def sameSetting (env : Environment) : Setting :=
  .inEnvironment env Eq .outcomes

section Contexts

variable {env : Environment} {a b : Expr}

theorem binds_self (p : Param) : (sameSetting env).Binds p p := by
  rintro s _ rfl
  rfl

/-- Every expression corresponds to itself in the same scope. -/
theorem corresponds_same (e : Expr) : Corresponds (sameSetting env) e e := by
  refine corresponds_self binds_self (fun p => ?_) e
  rintro s _ rfl name
  exact SameOutcome.refl _

theorem resembles_same (e : Expr) : Resembles (sameSetting env) e e :=
  (corresponds_same e).toResembles

/-- A list with one operand exchanged. -/
theorem Resembles.replace (h : Resembles (sameSetting env) a b)
    (before after : List Expr) :
    List.Forall₂ (Resembles (sameSetting env)) (before ++ a :: after)
      (before ++ b :: after) := by
  induction before with
  | nil => exact .cons h (List.forall₂_same.mpr fun c _ => resembles_same c)
  | cons c before ih => exact .cons (resembles_same c) ih

/-- Operands that resemble each other make nodes that correspond, where the
node does not look closer. -/
theorem Resembles.fillFrame (h : Resembles (sameSetting env) a b) {f : Frame}
    (hf : f.looksCloser = false) :
    Corresponds (sameSetting env) (f.fill a) (f.fill b) := by
  cases f with
  | object | alternative => cases hf
  | leftOperand op right ty => exact h.binary (resembles_same right) op ty
  | rightOperand op left ty => exact (resembles_same left).binary h op ty
  | unaryOperand op ty =>
      refine h.unary fun hop => ?_
      rw [hop] at hf
      cases hf
  | argument method before after ty =>
      exact Resembles.call (h.replace before after) method ty
  | receiverOf method args ty =>
      exact h.callOn (List.forall₂_same.mpr fun c _ => resembles_same c)
        method ty
  | argumentOn receiver method before after ty =>
      exact (resembles_same receiver).callOn (h.replace before after) method ty
  | condition ifTrue ifFalse ty =>
      exact h.conditional (resembles_same ifTrue) (resembles_same ifFalse)
        rfl ty
  | consequent test ifFalse ty =>
      exact (resembles_same test).conditional h (resembles_same ifFalse) rfl ty
  | constructorArgument before after ty =>
      exact Resembles.construct (h.replace before after) ty
  | element before after ty =>
      exact Resembles.newArray (h.replace before after) ty
  | body params ty =>
      exact Resembles.lambda (List.forall₂_same.mpr fun p _ => binds_self p)
        (Or.inl rfl) h ty
  | operand name before after ty =>
      exact Resembles.other (h.replace before after) name ty

/-- Operands that correspond make nodes that do, whatever these look at. -/
theorem Corresponds.fillFrame (h : Corresponds (sameSetting env) a b)
    (f : Frame) : Corresponds (sameSetting env) (f.fill a) (f.fill b) := by
  cases f with
  | object name ty => exact h.member name ty
  | unaryOperand op ty => exact h.unary op ty
  | alternative test ifTrue ty =>
      exact (resembles_same test).conditional (resembles_same ifTrue)
        h.toResembles h.isConditional_eq ty
  | _ => exact h.toResembles.fillFrame rfl

/-- Expressions that correspond do so in every context, by induction from
the hole outwards. -/
theorem Corresponds.fill (h : Corresponds (sameSetting env) a b)
    (C : Context) : Corresponds (sameSetting env) (C.fill a) (C.fill b) := by
  obtain ⟨frames⟩ := C
  induction frames with
  | nil => exact h
  | cons f frames ih => exact ih.fillFrame f

end Contexts

-- ============================================================= exchange

/-- The expressions agree in all that compilation asks about an operand. -/
structure Interchangeable (env : Environment) (a b : Expr) : Prop where
  type_eq : a.type = b.type
  param?_eq : a.param? = b.param?
  isConditional_eq : a.isConditional = b.isConditional
  isClosed_eq : a.isClosed = b.isClosed
  fold_eq : a.fold env.evaluator = b.fold env.evaluator
  outcome : ∀ scope,
    SameOutcome (a.compileIn env scope) (b.compileIn env scope)

namespace Interchangeable

variable {env : Environment} {a b c : Expr}

theorem refl (a : Expr) : Interchangeable env a a :=
  ⟨rfl, rfl, rfl, rfl, rfl, fun _ => .refl _⟩

/-- What is exchanged twice is exchanged. -/
theorem trans (hab : Interchangeable env a b) (hbc : Interchangeable env b c) :
    Interchangeable env a c :=
  ⟨hab.type_eq.trans hbc.type_eq, hab.param?_eq.trans hbc.param?_eq,
    hab.isConditional_eq.trans hbc.isConditional_eq,
    hab.isClosed_eq.trans hbc.isClosed_eq, hab.fold_eq.trans hbc.fold_eq,
    fun scope => (hab.outcome scope).trans (hbc.outcome scope)⟩

/-- Interchangeable expressions correspond. -/
theorem corresponds (h : Interchangeable env a b) :
    Corresponds (sameSetting env) a b where
  blame := Or.inr Comparison.byKind_outcomes
  type_eq := h.type_eq
  params := by
    rw [h.param?_eq]
    cases b.param? with
    | none => exact .none
    | some p =>
        refine .some ?_
        rintro s _ rfl name
        exact SameOutcome.refl _
  isConditional_eq := h.isConditional_eq
  isClosed_eq := h.isClosed_eq
  fold_eq := h.fold_eq
  outcome := by
    rintro s _ rfl
    exact h.outcome s

/-- Expressions that correspond are interchangeable, if they are the same
parameter or none. -/
theorem of_corresponds (h : Corresponds (sameSetting env) a b)
    (hparam : a.param? = b.param?) : Interchangeable env a b :=
  ⟨h.type_eq, hparam, h.isConditional_eq, h.isClosed_eq, h.fold_eq,
    fun _ => h.outcome rfl⟩

/-- Interchangeable expressions are so in every context. -/
theorem fill (h : Interchangeable env a b) (C : Context) :
    Interchangeable env (C.fill a) (C.fill b) := by
  refine of_corresponds (h.corresponds.fill C) ?_
  obtain ⟨frames⟩ := C
  cases frames with
  | nil => exact h.param?_eq
  | cons f frames => cases f <;> rfl

end Interchangeable

-- ============================================================ constants

/-- The kinds of nodes that ask the evaluator before anything else: calls,
constructions and static members. -/
def isEvaluated : Expr → Bool
  | .call .. | .callOn .. | .construct .. | .staticMember .. => true
  | _ => false

/-- What is evaluated is interchangeable with its value. -/
theorem interchangeable_constant {env : Environment} {s : Expr} {v : Value}
    (hs : s.isEvaluated = true)
    (hfold : s.fold env.evaluator = .ok (some v)) :
    Interchangeable env s (.constant v s.type) := by
  have houtcome : ∀ scope, s.compileIn env scope = .ok (.literal v) := by
    intro scope
    cases s with
    | call | callOn | construct | staticMember =>
        exact foldedOr_of_some _ hfold
    | _ => cases hs
  refine ⟨rfl, ?_, ?_, isClosed_of_fold s v hfold, hfold, fun scope => ?_⟩
  · cases s <;> first
      | rfl
      | cases hs
  · cases s <;> first
      | rfl
      | cases hs
  · rw [houtcome scope]
    exact .ok _

/-- The evaluation of a constant in advance does not show. In every scope
and every context, a call, a construction or a static member that folds may
be replaced by its value, with the same static type: both expressions have
the same criterion, or errors of one kind. -/
theorem compileIn_fill_constant (env : Environment) (scope : Scope)
    (C : Context) {s : Expr} {v : Value} (hs : s.isEvaluated = true)
    (hfold : s.fold env.evaluator = .ok (some v)) :
    SameOutcome ((C.fill s).compileIn env scope)
      ((C.fill (.constant v s.type)).compileIn env scope) :=
  ((interchangeable_constant hs hfold).fill C).outcome scope

/-- `c => c.Orders.Any(o => o.Total > …)`. -/
def ordersOver : Context :=
  let c : Param := ⟨0, "c", .object "Customer"⟩
  let o : Param := ⟨1, "o", .object "Order"⟩
  let orders := Expr.member (.ofParam c) "Orders" (.sequence o.ty)
  let total := Expr.member (.ofParam o) "Total" .int32
  ⟨[.body [c] .bool, .argument (.enumerable "Any") [orders] [] .bool,
    .body [o] .bool, .rightOperand .greaterThan total .bool]⟩

/-- `Math.Abs(-5)`. -/
def distance : Expr :=
  .call (.scalar "Math" "Abs") [.ofValue (.int (-5))] .int32

/-- Inside two lambdas, `Math.Abs(-5)` compiles as 5 does, and both do
compile. -/
theorem compileIn_ordersOver :
    let env : Environment := ⟨.empty, Host.evaluator ⟨.minValue, .utc, [], []⟩⟩
    distance.isEvaluated = true
      ∧ distance.fold env.evaluator = .ok (some (.int 5))
      ∧ (∃ c, (ordersOver.fill distance).compileIn env .empty = .ok c)
      ∧ SameOutcome ((ordersOver.fill distance).compileIn env .empty)
          ((ordersOver.fill (.constant (.int 5) .int32)).compileIn env
            .empty) := by
  intro env
  have hfold : distance.fold env.evaluator = .ok (some (.int 5)) := rfl
  exact ⟨rfl, hfold, ⟨_, rfl⟩,
    compileIn_fill_constant env .empty ordersOver rfl hfold⟩

end Expr

end FilterCriteria
