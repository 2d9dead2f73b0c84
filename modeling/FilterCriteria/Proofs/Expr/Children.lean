/-
The expressions directly inside an expression, and those anywhere inside
it. Statements about all expressions go by induction over the former
(`induction_children`), so that a list of arguments needs no induction of
its own; conditions on all parts of an expression speak of the latter
(`Occurs`).

The induction is over the size of the expression, and that operands are
smaller is said once for all kinds of nodes (`size_lt_of_mem_children`). For
each kind of node that examples are made of there is a lemma that says what
occurs in it; they are for the simplifier, which then goes through a fixed
expression node by node.
-/
import FilterCriteria.Expr

namespace FilterCriteria.Expr

-- ============================================================ children

/-- The operands of an expression, receiver first. -/
def children : Expr → List Expr
  | .param .. | .constant .. | .staticMember .. => []
  | .member object _ _ => [object]
  | .binary _ left right _ => [left, right]
  | .unary _ operand _ => [operand]
  | .call _ args _ => args
  | .callOn receiver _ args _ => receiver :: args
  | .conditional test ifTrue ifFalse _ => [test, ifTrue, ifFalse]
  | .construct args _ => args
  | .newArray elements _ => elements
  | .lambda _ body _ => [body]
  | .other _ operands _ => operands

/-- An expression is no larger than a list that it is in. -/
theorem size_le_sizeList {c : Expr} {es : List Expr} (h : c ∈ es) :
    c.size ≤ sizeList es := by
  induction es with
  | nil => cases h
  | cons e rest ih =>
      unfold sizeList
      rcases List.mem_cons.mp h with rfl | h
      · omega
      · have := ih h
        omega

/-- An operand has fewer nodes. -/
theorem size_lt_of_mem_children {c e : Expr} (h : c ∈ e.children) :
    c.size < e.size := by
  cases e with
  | param | constant | staticMember => cases h
  | call | construct | newArray | other =>
      simp only [children] at h
      have := size_le_sizeList h
      simp only [size]
      omega
  | callOn receiver method args ty =>
      simp only [size]
      rcases List.mem_cons.mp h with rfl | h
      · omega
      · have := size_le_sizeList h
        omega
  | member | unary | lambda =>
      rw [List.mem_singleton.mp h]
      simp only [size]
      omega
  | binary op left right ty =>
      simp only [children, List.mem_cons, List.not_mem_nil, or_false] at h
      simp only [size]
      rcases h with rfl | rfl <;> omega
  | conditional test ifTrue ifFalse ty =>
      simp only [children, List.mem_cons, List.not_mem_nil, or_false] at h
      simp only [size]
      rcases h with rfl | rfl | rfl <;> omega

/-- What holds of an expression whenever it holds of its operands holds of
all expressions. -/
theorem induction_children {P : Expr → Prop}
    (step : ∀ e : Expr, (∀ c ∈ e.children, P c) → P e) (e : Expr) : P e :=
  step e fun c _ => induction_children step c
termination_by e.size
decreasing_by exact size_lt_of_mem_children ‹_›

-- ========================================================== occurrences

/-- The expression is the other one or is inside it. -/
inductive Occurs (part : Expr) : Expr → Prop where
  | self : Occurs part part
  | inside {c e : Expr} (hchild : c ∈ e.children) (h : Occurs part c) :
      Occurs part e

/-- What occurs in an expression is the expression or occurs in an operand. -/
theorem occurs_iff {part e : Expr} :
    part.Occurs e ↔ part = e ∨ ∃ c ∈ e.children, part.Occurs c := by
  constructor
  · intro h
    cases h with
    | self => exact Or.inl rfl
    | inside hchild h => exact Or.inr ⟨_, hchild, h⟩
  · rintro (rfl | ⟨c, hchild, h⟩)
    · exact .self
    · exact .inside hchild h

section Constructors

variable {part : Expr}

@[simp] theorem occurs_param {p : Param} {ty : Ty} :
    part.Occurs (.param p ty) ↔ part = .param p ty := by
  rw [occurs_iff]
  simp [children]

@[simp] theorem occurs_constant {v : Value} {ty : Ty} :
    part.Occurs (.constant v ty) ↔ part = .constant v ty := by
  rw [occurs_iff]
  simp [children]

@[simp] theorem occurs_staticMember {owner name : String} {ty : Ty} :
    part.Occurs (.staticMember owner name ty)
      ↔ part = .staticMember owner name ty := by
  rw [occurs_iff]
  simp [children]

@[simp] theorem occurs_member {object : Expr} {name : String} {ty : Ty} :
    part.Occurs (.member object name ty)
      ↔ part = .member object name ty ∨ part.Occurs object := by
  rw [occurs_iff]
  simp [children]

@[simp] theorem occurs_binary {op : BinaryOp} {left right : Expr} {ty : Ty} :
    part.Occurs (.binary op left right ty)
      ↔ part = .binary op left right ty ∨ part.Occurs left
        ∨ part.Occurs right := by
  rw [occurs_iff]
  simp [children]

@[simp] theorem occurs_unary {op : UnaryOp} {operand : Expr} {ty : Ty} :
    part.Occurs (.unary op operand ty)
      ↔ part = .unary op operand ty ∨ part.Occurs operand := by
  rw [occurs_iff]
  simp [children]

/-- What occurs in a call without a receiver is the call or occurs in an
argument. -/
@[simp] theorem occurs_call {method : Method} {args : List Expr} {ty : Ty} :
    part.Occurs (.call method args ty)
      ↔ part = .call method args ty ∨ ∃ a ∈ args, part.Occurs a := by
  rw [occurs_iff]
  simp [children]

/-- A receiver is an operand in front of the arguments. -/
@[simp] theorem occurs_callOn {receiver : Expr} {method : Method}
    {args : List Expr} {ty : Ty} :
    part.Occurs (.callOn receiver method args ty)
      ↔ part = .callOn receiver method args ty ∨ part.Occurs receiver
        ∨ ∃ a ∈ args, part.Occurs a := by
  rw [occurs_iff]
  simp [children]

/-- The elements of an array are its operands. -/
@[simp] theorem occurs_newArray {elements : List Expr} {ty : Ty} :
    part.Occurs (.newArray elements ty)
      ↔ part = .newArray elements ty ∨ ∃ a ∈ elements, part.Occurs a := by
  rw [occurs_iff]
  simp [children]

/-- The parameters of a lambda are no expressions, so only its body counts. -/
@[simp] theorem occurs_lambda {params : List Param} {body : Expr} {ty : Ty} :
    part.Occurs (.lambda params body ty)
      ↔ part = .lambda params body ty ∨ part.Occurs body := by
  rw [occurs_iff]
  simp [children]

end Constructors

/-- What occurs in a part occurs in the whole. -/
theorem Occurs.trans {part a e : Expr} (hpart : part.Occurs a)
    (ha : a.Occurs e) : part.Occurs e := by
  induction ha with
  | self => exact hpart
  | inside hchild _ ih => exact .inside hchild ih

end FilterCriteria.Expr
