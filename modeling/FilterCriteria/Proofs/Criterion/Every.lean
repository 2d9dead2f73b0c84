/-
Conditions on all nodes of a tree, for values and for criteria. The
predicate goes down by the children of a node, so that an induction over it
serves as the induction over trees with lists and options in them.

A value has its items or its fields inside it (`Value.parts`), a criterion its
operands (`Criterion.children`); a literal is a leaf of a criterion, and its
value is looked at by the condition itself. An induction over a predicate of
this kind has for each node what holds there and the hypothesis for all of its
children at once, whatever kind of node it is. Where there is no condition,
`induction_children` is the same induction without one.
-/
import FilterCriteria.Criterion

namespace FilterCriteria

namespace Value

/-- The values directly inside a value. -/
def parts : Value → List Value
  | .array items => items
  | .object fields => fields.map Prod.snd
  | _ => []

/-- A condition that a value meets, with every value inside it. -/
inductive Every (p : Value → Prop) : Value → Prop where
  | node {v : Value} (here : p v) (below : ∀ w ∈ v.parts, Every p w) :
    Every p v

/-- A value meets the condition, and each of its parts does so all the way
down. -/
theorem every_iff {p : Value → Prop} {v : Value} :
    v.Every p ↔ p v ∧ ∀ w ∈ v.parts, w.Every p := by
  constructor
  · intro h
    cases h with
    | node here below => exact ⟨here, below⟩
  · intro h
    exact .node h.1 h.2

/-- Of a value with nothing inside it, only it has to be looked at. -/
theorem every_leaf {p : Value → Prop} {v : Value} (here : p v)
    (hparts : v.parts = []) : v.Every p := by
  refine .node here fun w hw => ?_
  rw [hparts] at hw
  contradiction

end Value

namespace Criterion

/-- The criteria directly below a node. -/
def children : Criterion → List Criterion
  | .property _ | .literal _ => []
  | .binary _ left right => [left, right]
  | .unary _ operand => [operand]
  | .function _ operands => operands
  | .aggregate _ _ expression condition =>
    expression.toList ++ condition.toList
  | .within probe values => probe :: values

/-- A condition that a criterion meets, with every criterion below it. -/
inductive Every (p : Criterion → Prop) : Criterion → Prop where
  | node {c : Criterion} (here : p c) (below : ∀ d ∈ c.children, Every p d) :
    Every p c

/-- A criterion meets the condition, and each of its children does so all the
way down. -/
theorem every_iff {p : Criterion → Prop} {c : Criterion} :
    c.Every p ↔ p c ∧ ∀ d ∈ c.children, d.Every p := by
  constructor
  · intro h
    cases h with
    | node here below => exact ⟨here, below⟩
  · intro h
    exact .node h.1 h.2

/-- Of a criterion with no operands, only it has to be looked at. -/
theorem every_leaf {p : Criterion → Prop} {c : Criterion} (here : p c)
    (hchildren : c.children = []) : c.Every p := by
  refine .node here fun d hd => ?_
  rw [hchildren] at hd
  contradiction

theorem Every.here {p : Criterion → Prop} {c : Criterion} (h : c.Every p) :
    p c := by
  cases h with
  | node here _ => exact here

theorem Every.child {p : Criterion → Prop} {c : Criterion} (h : c.Every p) :
    ∀ d ∈ c.children, d.Every p := by
  cases h with
  | node _ below => exact below

/-- A condition on every node may be weakened. -/
theorem Every.imp {p q : Criterion → Prop} (hpq : ∀ c, p c → q c)
    {c : Criterion} (h : c.Every p) : c.Every q := by
  induction h with
  | node here _ ih => exact .node (hpq _ here) ih

mutual

/-- Of every criterion it holds that there is nothing to check, which is the
induction over its nodes: the recursion goes over the tree with the lists and
options in it, and everything below goes over the children. -/
theorem every_true : (c : Criterion) → c.Every fun _ => True
  | .property _ => .node trivial fun _ h => nomatch h
  | .literal _ => .node trivial fun _ h => nomatch h
  | .binary _ left right => .node trivial fun d h => by
    rcases List.mem_cons.mp h with h | h
    · rw [h]
      exact every_true left
    · rw [List.mem_singleton.mp h]
      exact every_true right
  | .unary _ operand => .node trivial fun d h => by
    rw [List.mem_singleton.mp h]
    exact every_true operand
  | .function _ operands => .node trivial (every_true_list operands)
  | .aggregate _ _ expression condition => .node trivial fun d h => by
    rcases List.mem_append.mp h with h | h
    · exact every_true_option expression d (Option.mem_toList.mp h)
    · exact every_true_option condition d (Option.mem_toList.mp h)
  | .within probe values => .node trivial fun d h => by
    rcases List.mem_cons.mp h with h | h
    · rw [h]
      exact every_true probe
    · exact every_true_list values d h
termination_by structural c => c

theorem every_true_list : (cs : List Criterion) →
    ∀ d ∈ cs, d.Every fun _ => True
  | [], _, h => nomatch h
  | c :: cs, d, h => by
    rcases List.mem_cons.mp h with h | h
    · rw [h]
      exact every_true c
    · exact every_true_list cs d h
termination_by structural cs => cs

theorem every_true_option : (c : Option Criterion) →
    ∀ d ∈ c, d.Every fun _ => True
  | none, _, h => nomatch h
  | some c, d, h => by
    rw [← Option.some.inj h]
    exact every_true c
termination_by structural c => c

end

/-- Induction from the children of a node to the node. -/
theorem induction_children {motive : Criterion → Prop}
    (step : ∀ c, (∀ d ∈ c.children, motive d) → motive c)
    (c : Criterion) : motive c := by
  induction every_true c with
  | node _ _ ih => exact step _ ih

end Criterion

end FilterCriteria
