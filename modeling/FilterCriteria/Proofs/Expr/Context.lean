/-
Expressions with a hole. A frame is a node that lacks one operand, and a
context a row of frames, the outermost first. The contexts of an expression
are its places: what occurs in it is what fills a hole (`occurs_iff_fill`).

A statement about a place in an expression goes by induction over the frames
of its context, one node at a time, and each frame is a case by its kind. In
the other direction, every operand of a node is in a frame of its own
(`Frame.exists_fill`): for operands in a list this takes the list apart into
what stands before the operand and what stands after it.
-/
import FilterCriteria.Proofs.Expr.Children

namespace FilterCriteria.Expr

-- ============================================================== frames

/-- A node with a hole for one of its operands. Of a list of operands the
ones before the hole and those after it are there. -/
inductive Frame where
  | object (name : String) (ty : Ty)
  | leftOperand (op : BinaryOp) (right : Expr) (ty : Ty)
  | rightOperand (op : BinaryOp) (left : Expr) (ty : Ty)
  | unaryOperand (op : UnaryOp) (ty : Ty)
  | argument (method : Method) (before after : List Expr) (ty : Ty)
  | receiverOf (method : Method) (args : List Expr) (ty : Ty)
  | argumentOn (receiver : Expr) (method : Method)
      (before after : List Expr) (ty : Ty)
  | condition (ifTrue ifFalse : Expr) (ty : Ty)
  | consequent (test ifFalse : Expr) (ty : Ty)
  | alternative (test ifTrue : Expr) (ty : Ty)
  | constructorArgument (before after : List Expr) (ty : Ty)
  | element (before after : List Expr) (ty : Ty)
  | body (params : List Param) (ty : Ty)
  | operand (name : String) (before after : List Expr) (ty : Ty)

/-- The node with an expression in its hole. -/
def Frame.fill : Frame → Expr → Expr
  | .object name ty, e => .member e name ty
  | .leftOperand op right ty, e => .binary op e right ty
  | .rightOperand op left ty, e => .binary op left e ty
  | .unaryOperand op ty, e => .unary op e ty
  | .argument method before after ty, e =>
    .call method (before ++ e :: after) ty
  | .receiverOf method args ty, e => .callOn e method args ty
  | .argumentOn receiver method before after ty, e =>
    .callOn receiver method (before ++ e :: after) ty
  | .condition ifTrue ifFalse ty, e => .conditional e ifTrue ifFalse ty
  | .consequent test ifFalse ty, e => .conditional test e ifFalse ty
  | .alternative test ifTrue ty, e => .conditional test ifTrue e ty
  | .constructorArgument before after ty, e =>
    .construct (before ++ e :: after) ty
  | .element before after ty, e => .newArray (before ++ e :: after) ty
  | .body params ty, e => .lambda params e ty
  | .operand name before after ty, e => .other name (before ++ e :: after) ty

/-- What fills the hole of a frame is an operand of the result. -/
theorem Frame.mem_children_fill (f : Frame) (e : Expr) :
    e ∈ (f.fill e).children := by
  cases f <;> simp [fill, children]

/-- Every operand fills the hole of a frame. -/
theorem Frame.exists_fill {c e : Expr} (h : c ∈ e.children) :
    ∃ f : Frame, f.fill c = e := by
  cases e with
  | param | constant | staticMember => cases h
  | member object name ty =>
      rw [List.mem_singleton.mp h]
      exact ⟨.object name ty, rfl⟩
  | binary op left right ty =>
      simp only [children, List.mem_cons, List.not_mem_nil, or_false] at h
      rcases h with rfl | rfl
      · exact ⟨.leftOperand op right ty, rfl⟩
      · exact ⟨.rightOperand op left ty, rfl⟩
  | unary op operand ty =>
      rw [List.mem_singleton.mp h]
      exact ⟨.unaryOperand op ty, rfl⟩
  | call method args ty =>
      change c ∈ args at h
      obtain ⟨before, after, rfl⟩ := List.append_of_mem h
      exact ⟨.argument method before after ty, rfl⟩
  | callOn receiver method args ty =>
      rcases List.mem_cons.mp h with rfl | h
      · exact ⟨.receiverOf method args ty, rfl⟩
      · obtain ⟨before, after, rfl⟩ := List.append_of_mem h
        exact ⟨.argumentOn receiver method before after ty, rfl⟩
  | conditional test ifTrue ifFalse ty =>
      simp only [children, List.mem_cons, List.not_mem_nil, or_false] at h
      rcases h with rfl | rfl | rfl
      · exact ⟨.condition ifTrue ifFalse ty, rfl⟩
      · exact ⟨.consequent test ifFalse ty, rfl⟩
      · exact ⟨.alternative test ifTrue ty, rfl⟩
  | construct args ty =>
      change c ∈ args at h
      obtain ⟨before, after, rfl⟩ := List.append_of_mem h
      exact ⟨.constructorArgument before after ty, rfl⟩
  | newArray elements ty =>
      change c ∈ elements at h
      obtain ⟨before, after, rfl⟩ := List.append_of_mem h
      exact ⟨.element before after ty, rfl⟩
  | lambda params body ty =>
      rw [List.mem_singleton.mp h]
      exact ⟨.body params ty, rfl⟩
  | other name operands ty =>
      change c ∈ operands at h
      obtain ⟨before, after, rfl⟩ := List.append_of_mem h
      exact ⟨.operand name before after ty, rfl⟩

-- ============================================================ contexts

/-- An expression with a hole anywhere inside it. -/
structure Context where
  frames : List Frame

/-- The expression with another one in its hole. -/
def Context.fill (C : Context) (e : Expr) : Expr :=
  C.frames.foldr Frame.fill e

/-- What occurs in an expression is what fills a hole of it. -/
theorem occurs_iff_fill {part e : Expr} :
    part.Occurs e ↔ ∃ C : Context, C.fill part = e := by
  constructor
  · intro h
    induction h with
    | self => exact ⟨⟨[]⟩, rfl⟩
    | inside hchild _ ih =>
        obtain ⟨C, rfl⟩ := ih
        obtain ⟨f, rfl⟩ := Frame.exists_fill hchild
        exact ⟨⟨f :: C.frames⟩, rfl⟩
  · rintro ⟨⟨frames⟩, rfl⟩
    induction frames with
    | nil => exact .self
    | cons f frames ih => exact .inside (f.mem_children_fill _) ih

end FilterCriteria.Expr
