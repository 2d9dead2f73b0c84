/-
Queries over sequences in memory and over those of a provider. The methods
of the latter take their lambdas quoted, and are declared on another type;
to compilation the two forms are the same.

A quote around a lambda compiles to what the lambda does, and neither of
them is ever constant, so they are interchangeable
(`interchangeable_unquoted`). Two methods are interchangeable if they have
one name, are both on sequences or both not, and are evaluated alike
(`Method.Alike`). The last one needs a condition: a program can bind a
function to the one declaring type and not to the other. A host without such
functions evaluates no method of either form.

The main statement (`compileIn_inMemory`): with all quoted lambdas unquoted
and all methods of queries exchanged for those on sequences in memory, an
expression has the same criterion, or an error of the same kind.
-/
import FilterCriteria.Proofs.Compile.Interchange

namespace FilterCriteria

open Compile

-- ============================================================= methods

namespace Method

/-- The method on sequences in memory that stands for one on sequences of a
query. Other methods stand for themselves. -/
def inMemory (m : Method) : Method :=
  if m.declaring = .queryable then
    ⟨if m.owner = "Queryable" then "Enumerable" else m.owner, m.name,
      .enumerable⟩
  else m

/-- The methods are the same to compilation: they go by one name, both of
them or none work on a sequence, and the evaluator has the same values for
their calls. -/
structure Alike (ev : Evaluator) (m n : Method) : Prop where
  name_eq : m.name = n.name
  onSequence_eq : m.onSequence = n.onSequence
  settle_eq : ∀ receiver args,
    settle (ev.call m receiver args) = settle (ev.call n receiver args)

/-- The host has no functions for either form. -/
theorem alike_inMemory {h : Host} (hfunctions : h.functions = [])
    (m : Method) : m.Alike h.evaluator m.inMemory := by
  obtain ⟨owner, name, declaring⟩ := m
  unfold inMemory
  split
  · next hquery =>
    cases hquery
    refine ⟨rfl, rfl, fun receiver args => ?_⟩
    cases receiver with
    | some v => rfl
    | none =>
        -- with no function of its own the host reads only the owner and name
        have hcall : ∀ method : Method, h.evaluator.call method none args
            = Host.callType h.zone method.owner method.name args := by
          intro method
          change h.call method none args = _
          unfold Host.call
          rw [hfunctions]
          rfl
        rw [hcall, hcall]
        dsimp only
        split
        · next howner =>
          rw [howner]
          rfl
        · rfl
  · exact ⟨rfl, rfl, fun _ _ => rfl⟩

end Method

namespace Expr

variable {env : Environment} {m n : Method}

/-- Of its method, a call asks for no more than this. -/
theorem sameOutcome_call (h : m.Alike env.evaluator n) {e d : Expr}
    (hfold : e.fold env.evaluator = d.fold env.evaluator)
    (receiver : Option Result) (args : List Expr) (compiled : List Result) :
    SameOutcome (Compile.call env e m receiver args compiled)
      (Compile.call env d n receiver args compiled) := by
  have hsame : Compile.call env e m receiver args compiled
      = Compile.call env e n receiver args compiled := by
    unfold Compile.call
    rw [h.name_eq, h.onSequence_eq]
  rw [hsame]
  refine Comparison.call (K := .outcomes) (fun _ => .refl _)
    (Or.inr Comparison.byKind_outcomes) n hfold ?_
    (List.forall₂_same.mpr fun _ _ => Or.inl rfl)
    (List.forall₂_same.mpr fun _ _ => .refl _)
  cases receiver with
  | none => exact .none
  | some r => exact .some (.refl r)

/-- Calls of methods that are alike are interchangeable. -/
theorem interchangeable_call (h : m.Alike env.evaluator n)
    (args : List Expr) (ty : Ty) :
    Interchangeable env (.call m args ty) (.call n args ty) := by
  have hfold : (Expr.call m args ty).fold env.evaluator
      = (Expr.call n args ty).fold env.evaluator := by
    rw [fold_call, fold_call]
    congr 1
    funext vs
    exact h.settle_eq none vs
  exact ⟨rfl, rfl, rfl, rfl, hfold, fun _ => sameOutcome_call h hfold _ _ _⟩

theorem interchangeable_callOn (h : m.Alike env.evaluator n)
    (receiver : Expr) (args : List Expr) (ty : Ty) :
    Interchangeable env (.callOn receiver m args ty)
      (.callOn receiver n args ty) := by
  have hfold : (Expr.callOn receiver m args ty).fold env.evaluator
      = (Expr.callOn receiver n args ty).fold env.evaluator := by
    rw [fold_callOn, fold_callOn]
    congr 1
    funext v
    congr 1
    funext vs
    exact h.settle_eq (some v) vs
  exact ⟨rfl, rfl, rfl, rfl, hfold, fun _ => sameOutcome_call h hfold _ _ _⟩

/-- A quoted lambda of its own type is interchangeable with the lambda. -/
theorem interchangeable_unquoted (params : List Param) (body : Expr)
    (ty : Ty) :
    Interchangeable env (.unary .quote (.lambda params body ty) ty)
      (.lambda params body ty) :=
  ⟨rfl, rfl, rfl, rfl, rfl, fun _ => .refl _⟩

-- ======================================================= whole queries

mutual

/-- The query over sequences in memory: without the quotes directly around
lambdas, and with the methods that stand for those of queries. -/
def inMemory : Expr → Expr
  | .param p ty => .param p ty
  | .constant v ty => .constant v ty
  | .staticMember owner name ty => .staticMember owner name ty
  | .member object name ty => .member object.inMemory name ty
  | .binary op left right ty => .binary op left.inMemory right.inMemory ty
  | .unary .quote (.lambda params body ty) _ => .lambda params body.inMemory ty
  | .unary op operand ty => .unary op operand.inMemory ty
  | .call method args ty => .call method.inMemory (inMemoryAll args) ty
  | .callOn receiver method args ty =>
    .callOn receiver.inMemory method.inMemory (inMemoryAll args) ty
  | .conditional test ifTrue ifFalse ty =>
    .conditional test.inMemory ifTrue.inMemory ifFalse.inMemory ty
  | .construct args ty => .construct (inMemoryAll args) ty
  | .newArray elements ty => .newArray (inMemoryAll elements) ty
  | .lambda params body ty => .lambda params body.inMemory ty
  | .other name operands ty => .other name (inMemoryAll operands) ty
termination_by structural e => e

def inMemoryAll : List Expr → List Expr
  | [] => []
  | e :: rest => e.inMemory :: inMemoryAll rest
termination_by structural es => es

end

/-- Under a unary operator the query goes on, unless a lambda is quoted. -/
theorem inMemory_unary (op : UnaryOp) (operand : Expr) (ty : Ty) :
    (∃ params body inner, op = .quote ∧ operand = .lambda params body inner)
      ∨ (Expr.unary op operand ty).inMemory
        = .unary op operand.inMemory ty := by
  cases op with
  | quote =>
      cases operand with
      | lambda params body inner =>
          exact Or.inl ⟨params, body, inner, rfl, rfl⟩
      | _ => exact Or.inr rfl
  | _ => exact Or.inr rfl

/-- If the lists are interchangeable one by one, they resemble each other. -/
theorem resembles_inMemoryAll {es : List Expr}
    (h : ∀ a ∈ es, Interchangeable env a a.inMemory) :
    List.Forall₂ (Resembles (sameSetting env)) es
      (inMemoryAll es) := by
  induction es with
  | nil => exact .nil
  | cons e rest ih =>
      obtain ⟨he, hrest⟩ := List.forall_mem_cons.mp h
      exact .cons he.corresponds.toResembles (ih hrest)

/-- An expression is interchangeable with its form in memory, by induction
over its operands: at each node first these are exchanged and then the
method or the quote. -/
theorem interchangeable_inMemory
    (hmethods : ∀ m : Method, m.Alike env.evaluator m.inMemory) (e : Expr) :
    (∀ operand ty, (Expr.unary .quote operand ty).Occurs e →
      ty = operand.type) →
    Interchangeable env e e.inMemory := by
  induction e using induction_children with
  | step e ih =>
      intro hquotes
      have hchildren : ∀ a ∈ e.children, Interchangeable env a a.inMemory :=
        fun a ha => ih a ha fun operand ty h =>
          hquotes operand ty (.inside ha h)
      have hresembles : ∀ a ∈ e.children,
          Resembles (sameSetting env) a a.inMemory :=
        fun a ha => (hchildren a ha).corresponds.toResembles
      cases e with
      | param | constant | staticMember => exact .refl _
      | member object name ty =>
          have hobject := hchildren object (by simp [children])
          exact .of_corresponds (hobject.corresponds.member name ty) rfl
      | binary op left right ty =>
          have hleft := hresembles left (by simp [children])
          have hright := hresembles right (by simp [children])
          exact .of_corresponds (hleft.binary hright op ty) rfl
      | unary op operand ty =>
          have hoperand := hchildren operand (by simp [children])
          -- a quoted lambda loses its quote, any other node stays a node
          rcases inMemory_unary op operand ty with
            ⟨params, body, inner, rfl, rfl⟩ | hunary
          · obtain rfl : ty = inner := hquotes _ ty .self
            exact (interchangeable_unquoted params body ty).trans hoperand
          · rw [hunary]
            exact .of_corresponds (hoperand.corresponds.unary op ty) rfl
      | call method args ty =>
          have hcall := Resembles.call (resembles_inMemoryAll hchildren)
            method ty
          exact (Interchangeable.of_corresponds hcall rfl).trans
            (interchangeable_call (hmethods method) _ ty)
      | callOn receiver method args ty =>
          obtain ⟨hreceiver, hargs⟩ := List.forall_mem_cons.mp hchildren
          have hcall := hreceiver.corresponds.toResembles.callOn
            (resembles_inMemoryAll hargs) method ty
          exact (Interchangeable.of_corresponds hcall rfl).trans
            (interchangeable_callOn (hmethods method) _ _ ty)
      | conditional test yes no ty =>
          have htest := hresembles test (by simp [children])
          have hyes := hresembles yes (by simp [children])
          have hno := hchildren no (by simp [children])
          exact .of_corresponds (htest.conditional hyes
            hno.corresponds.toResembles hno.isConditional_eq ty) rfl
      | construct args ty =>
          exact .of_corresponds
            (Resembles.construct (resembles_inMemoryAll hchildren) ty) rfl
      | newArray elements ty =>
          exact .of_corresponds
            (Resembles.newArray (resembles_inMemoryAll hchildren) ty) rfl
      | lambda params body ty =>
          have hbody := hresembles body (by simp [children])
          exact .of_corresponds (Resembles.lambda
            (List.forall₂_same.mpr fun p _ => binds_self p) (Or.inl rfl)
            hbody ty) rfl
      | other name operands ty =>
          exact .of_corresponds
            (Resembles.other (resembles_inMemoryAll hchildren) name ty) rfl

/-- The two forms of a query are the same to compilation. For a host without
functions of the program, in every scope and with every registry, an
expression whose quotes have the types of their operands has the criterion
that its form in memory has, or an error of the same kind. -/
theorem compileIn_inMemory {h : Host} (hfunctions : h.functions = [])
    (registry : Registry) (scope : Scope) {e : Expr}
    (hquotes : ∀ operand ty, (Expr.unary .quote operand ty).Occurs e →
      ty = operand.type) :
    SameOutcome (e.compileIn ⟨registry, h.evaluator⟩ scope)
      (e.inMemory.compileIn ⟨registry, h.evaluator⟩ scope) :=
  (interchangeable_inMemory (Method.alike_inMemory hfunctions) e
    hquotes).outcome scope

/-- `c => c.Orders.Any(o => o.Lines.Where(l => l.Open).Count() > 2)`, with the
methods of queries and all lambdas quoted but the outermost. -/
def openOrders : Expr :=
  let c : Param := ⟨0, "c", .object "Customer"⟩
  let o : Param := ⟨1, "o", .object "Order"⟩
  let l : Param := ⟨2, "l", .object "Line"⟩
  let orders := Expr.member (.ofParam c) "Orders" (.sequence o.ty)
  let lines := Expr.member (.ofParam o) "Lines" (.sequence l.ty)
  let opened := Expr.lambda [l] (.member (.ofParam l) "Open" .bool) .bool
  let left := Expr.call (.queryable "Where") [lines, .unary .quote opened .bool]
    (.sequence l.ty)
  let many := Expr.lambda [o] (.binary .greaterThan
    (.call (.queryable "Count") [left] .int32) (.ofValue (.int 2)) .bool) .bool
  .lambda [c] (.call (.queryable "Any") [orders, .unary .quote many .bool]
    .bool) .bool

/-- Both forms of the query count the open lines of an order. -/
theorem compileIn_inMemory_openOrders :
    let env : Environment := ⟨.empty, Host.evaluator ⟨.minValue, .utc, [], []⟩⟩
    let t := Criterion.aggregate "Orders" .any none (some (.binary .greater
      (.aggregate "Lines" .count none (some (.property "Open")))
      (.literal (.int 2))))
    (∀ operand ty, (Expr.unary .quote operand ty).Occurs openOrders →
        ty = operand.type)
      ∧ openOrders.compileIn env .empty = .ok t
      ∧ openOrders.inMemory.compileIn env .empty = .ok t := by
  intro env t
  have hquotes : ∀ operand ty,
      (Expr.unary .quote operand ty).Occurs openOrders →
      ty = operand.type := by
    intro operand ty h
    simp only [openOrders, ofParam, ofValue, occurs_lambda, occurs_call,
      occurs_unary, occurs_binary, occurs_member, occurs_param,
      occurs_constant, List.mem_cons, List.not_mem_nil, exists_eq_or_imp,
      exists_eq_left, reduceCtorEq, false_or, or_false,
      unary.injEq, true_and] at h
    rcases h with ⟨rfl, rfl⟩ | ⟨rfl, rfl⟩
    · rfl
    · rfl
  have hcompile : openOrders.compileIn env .empty = .ok t := rfl
  have hsame : SameOutcome (openOrders.compileIn env .empty)
      (openOrders.inMemory.compileIn env .empty) :=
    compileIn_inMemory rfl .empty .empty hquotes
  rw [hcompile] at hsame
  exact ⟨hquotes, hcompile, hsame.eq_ok⟩

end Expr

end FilterCriteria
