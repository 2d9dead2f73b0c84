/-
Where the parts of a criterion come from. Compilation makes properties,
operators, aggregates and built-in functions by its own rules. A custom
function comes from a call in the expression, and a literal from something
in the expression that folds: it is the value of that, or an element of
such a value, or the array of some (`Origin`).

Two rules take a literal apart or put one together: the test for an element
has the elements of a sequence as literals of their own, and an array is one
literal of the values of its elements. That is why an origin is not just a
part of the expression with its value, and why a condition on literals has to
go along with arrays (`Origin.literal`).

The main statement (`CompilesTo.origin`) is an induction over the rules of
compilation, with one lemma for each shape of criterion that a rule makes.
Statements about the custom functions or the literals of a criterion go by
cases on the origin, or by induction over it.
-/
import FilterCriteria.Proofs.Compile.Fusion

namespace FilterCriteria

open Compile

namespace Criterion

/-- Is the criterion of a kind that compilation makes by its own rules? -/
def isPlain : Criterion → Bool
  | .literal _ | .function (.custom _) _ => false
  | _ => true

theorem Every.of_occurs {P : Criterion → Prop} {part c : Criterion}
    (h : c.Every P) (hpart : part.Occurs c) : P part := by
  induction hpart with
  | self => exact h.here
  | inside hchild _ ih => exact ih (h.child _ hchild)

end Criterion

namespace Expr

/-- What a part of a criterion comes from, in an expression that the
criterion is for. -/
inductive Origin (env : Environment) (e : Expr) : Criterion → Prop where
  | plain {c : Criterion} (hc : c.isPlain = true) : Origin env e c
  | custom {part : Expr} {name : String} {es : List Expr}
      (hpart : part.Occurs e)
      (hcall : IsFunctionCall env part (.custom name) es)
      (operands : List Criterion) : Origin env e (.custom name operands)
  | value {part : Expr} {v : Value} (hpart : part.Occurs e)
      (hfold : part.fold env.evaluator = .ok (some v)) :
      Origin env e (.literal v)
  | element {vs : List Value} {v : Value}
      (h : Origin env e (.literal (.array vs))) (hv : v ∈ vs) :
      Origin env e (.literal v)
  | array {vs : List Value} (h : ∀ v ∈ vs, Origin env e (.literal v)) :
      Origin env e (.literal (.array vs))

variable {env : Environment} {scope : Scope} {e a : Expr} {c : Criterion}

/-- What comes from an operand comes from the expression. -/
theorem Origin.of_operand (ha : a ∈ e.children) (h : Origin env a c) :
    Origin env e c := by
  induction h with
  | plain hc => exact .plain hc
  | custom hpart hcall operands =>
      exact .custom (.inside ha hpart) hcall operands
  | value hpart hfold => exact .value (.inside ha hpart) hfold
  | element _ hv ih => exact ih.element hv
  | array _ ih => exact .array ih

/-- What comes from an operand comes from the whole. -/
theorem every_origin_of_operand (ha : a ∈ e.children)
    (h : c.Every (Origin env a)) : c.Every (Origin env e) :=
  h.imp fun _ => Origin.of_operand ha

-- ====================================================== by kind of node

/-- A part that compilation makes by itself needs no origin, only those inside
it do. -/
theorem every_plain (hc : c.isPlain = true)
    (h : ∀ d ∈ c.children, d.Every (Origin env e)) :
    c.Every (Origin env e) :=
  .node (.plain hc) h

theorem every_literal {v : Value} (h : Origin env e (.literal v)) :
    (Criterion.literal v).Every (Origin env e) :=
  Criterion.every_leaf h rfl

theorem every_property (path : String) :
    (Criterion.property path).Every (Origin env e) :=
  Criterion.every_leaf (.plain rfl) rfl

/-- Of the member of a single element, the parts are those in the condition
on it. -/
theorem every_projectMember {collection : String}
    {kind : Criterion.Aggregate} {expression condition : Option Criterion}
    (h : (Criterion.aggregate collection kind expression condition).Every
      (Origin env e)) (member : String) :
    ((Reduction.mk collection kind expression condition).projectMember
      member).toCriterion.Every (Origin env e) := by
  refine every_plain rfl (List.forall_mem_cons.mpr ⟨every_property _, ?_⟩)
  exact fun d hd => h.child d (List.mem_append_right _ hd)

/-- The condition of an aggregate in the making is a part of it. -/
theorem every_condition {r : Reduction}
    (hr : Reduction.ofCriterion? c = some r) (hc : c.Every (Origin env e)) :
    ∀ d ∈ r.condition, d.Every (Origin env e) := by
  intro d hd
  unfold Reduction.ofCriterion? at hr
  split at hr <;> cases hr
  · cases hd
  · exact hc.child d (List.mem_append_right _ (Option.mem_toList.mpr hd))

/-- A condition that is added to another one brings no parts of its own but
the operator between them. -/
theorem every_filter {r : Reduction}
    (hr : ∀ d ∈ r.condition, d.Every (Origin env e))
    {added : Option Criterion} (hadded : ∀ l ∈ added, l.Every (Origin env e)) :
    ∀ d ∈ (r.filter added).condition, d.Every (Origin env e) := by
  obtain ⟨collection, kind, expression, condition⟩ := r
  cases condition with
  | none => exact hadded
  | some old =>
      cases added with
      | none => exact hr
      | some new =>
          refine fun d hd => Option.some.inj hd ▸ every_plain rfl ?_
          exact List.forall_mem_cons.mpr ⟨hr old rfl,
            List.forall_mem_singleton.mpr (hadded new rfl)⟩

/-- The next step of an aggregate brings no parts but those of its lambda. -/
theorem every_nextStep {r : Reduction}
    (hr : Reduction.ofCriterion? c = some r) (hc : c.Every (Origin env e))
    {lambda : Option Criterion} (hlambda : ∀ l ∈ lambda, l.Every (Origin env e))
    (kind : Criterion.Aggregate) (role : LambdaRole) :
    (nextStep kind role lambda r).Every (Origin env e) := by
  have hcondition := every_condition hr hc
  cases role with
  | projection =>
      refine every_plain rfl fun d hd => ?_
      rcases List.mem_append.mp hd with hd | hd
      · exact hlambda d (Option.mem_toList.mp hd)
      · exact hcondition d (Option.mem_toList.mp hd)
  | condition =>
      refine every_plain rfl fun d hd => ?_
      exact every_filter (r := (r.withKind kind).project none) hcondition
        hlambda d (Option.mem_toList.mp hd)

/-- The branches of a conditional are the criterion that they are taken out
of, or its operands. -/
theorem every_branches (h : c.Every (Origin env e)) (alternative : Expr) :
    ∀ d ∈ branches alternative c, d.Every (Origin env e) := by
  intro d hd
  unfold branches at hd
  split at hd
  · exact h.child d hd
  · rw [List.mem_singleton.mp hd]
    exact h

/-- A function that is called has its own origin, and so have its
operands. -/
theorem every_function {f : Criterion.Function} {es : List Expr}
    (hcall : IsFunctionCall env e f es) {cs : List Criterion}
    (hcs : ∀ d ∈ cs, d.Every (Origin env e)) :
    (Criterion.function f cs).Every (Origin env e) := by
  cases f with
  | builtin f => exact every_plain rfl hcs
  | custom name => exact .node (.custom .self hcall cs) hcs

-- ======================================================== all together

/-- The induction over the rules: every part of a criterion comes from the
expression that it is for. -/
theorem CompilesTo.every_origin (h : CompilesTo env scope e c) :
    c.Every (Origin env e) := by
  induction h with
  | folded hasks hfold => exact every_literal (.value .self hfold)
  | property | path => exact every_property _
  | accessor ty hf hoperand ih | cast hcast hfold hf hoperand ih
  | not ty hoperand ih | negate ty hoperand ih =>
      refine every_plain rfl (List.forall_mem_singleton.mpr ?_)
      exact every_origin_of_operand (by simp [children]) ih
  | projection ty hread hopen hobject ih =>
      exact every_projectMember
        (every_origin_of_operand (by simp [children]) ih) _
  | @coalesce scope left right c d ty hleft hright ihleft ihright =>
      let e := Expr.binary .coalesce left right ty
      have hc : c.Every (Origin env e) :=
        every_origin_of_operand (by simp [e, children]) ihleft
      have hd : d.Every (Origin env e) :=
        every_origin_of_operand (by simp [e, children]) ihright
      have hnull : c.isNull.Every (Origin env e) :=
        every_plain rfl (List.forall_mem_singleton.mpr hc)
      refine every_plain rfl ?_
      exact List.forall_mem_cons.mpr ⟨hnull, List.forall_mem_cons.mpr
        ⟨hd, List.forall_mem_singleton.mpr hc⟩⟩
  | binary ty hop hleft hright ihleft ihright =>
      refine every_plain rfl ?_
      refine List.forall_mem_cons.mpr ⟨?_, List.forall_mem_singleton.mpr ?_⟩
      · exact every_origin_of_operand (by simp [children]) ihleft
      · exact every_origin_of_operand (by simp [children]) ihright
  | quote ty hoperand ih | referenceCast hcast hoperand ih
  | lambda ty hbody ih =>
      exact every_origin_of_operand (by simp [children]) ih
  | conditional ty htest hyes hno ihtest ihyes ihno =>
      refine every_plain rfl ?_
      refine List.forall_mem_cons.mpr ⟨?_, List.forall_mem_cons.mpr ⟨?_, ?_⟩⟩
      · exact every_origin_of_operand (by simp [children]) ihtest
      · exact every_origin_of_operand (by simp [children]) ihyes
      · exact every_branches
          (every_origin_of_operand (by simp [children]) ihno) _
  | function hcall hfold hlength hoperands ih =>
      refine every_function hcall fun d hd => ?_
      obtain ⟨a, ha, hpair⟩ := hcall.exists_operand hlength hd
      exact every_origin_of_operand ha (ih hpair)
  | @membership scope method source probe p v items ty hmethod hname hfold
      hprobe hsource hitems ihprobe ihsource =>
      refine every_plain rfl (List.forall_mem_cons.mpr ⟨?_, fun d hd => ?_⟩)
      · exact every_origin_of_operand (by simp [children]) ihprobe
      · obtain ⟨w, hw, rfl⟩ := List.mem_map.mp hd
        -- the sequence has an origin as a whole, so its elements have one
        cases v with
        | array vs =>
            cases hitems
            exact every_literal
              ((ihsource.here.of_operand (by simp [children])).element hw)
        | _ => cases hitems
  | aggregate hcall hmethod hfold hsource hr ih =>
      refine every_nextStep hr ?_ (by simp) _ _
      exact every_origin_of_operand (by simp [hcall.children]) ih
  | aggregateBy hcall hmethod hfold hsource hr hselector ihsource ihselector =>
      refine every_nextStep hr ?_ (fun l hl => ?_) _ _
      · exact every_origin_of_operand (by simp [hcall.children]) ihsource
      · cases hl
        exact every_origin_of_operand (by simp [hcall.children]) ihselector
  | newArray ty hlength helements ih =>
      refine every_literal (.array fun v hv => ?_)
      obtain ⟨a, ha, hpair⟩ := exists_mem_zip hlength hv
      exact (ih hpair).here.of_operand ha

/-- Every part of a criterion, at whatever depth, has an origin in the
expression. -/
theorem CompilesTo.origin (h : CompilesTo env scope e c) {part : Criterion}
    (hpart : part.Occurs c) : Origin env e part :=
  h.every_origin.of_occurs hpart

/-- A condition on values holds of every literal, if it holds of the values
that parts of the expression fold to, and of an array exactly if it holds
of its elements. -/
theorem Origin.literal {P : Value → Prop}
    (hvalue : ∀ (part : Expr) (v : Value), part.Occurs e →
      part.fold env.evaluator = .ok (some v) → P v)
    (harray : ∀ vs, P (.array vs) ↔ ∀ v ∈ vs, P v) (h : Origin env e c) :
    ∀ v, c = .literal v → P v := by
  induction h with
  | plain hc =>
      rintro v rfl
      cases hc
  | custom => nofun
  | value hpart hfold =>
      intro v hv
      cases hv
      exact hvalue _ _ hpart hfold
  | element _ hmem ih =>
      intro v hv
      cases hv
      exact (harray _).mp (ih _ rfl) _ hmem
  | array _ ih =>
      intro v hv
      cases hv
      exact (harray _).mpr fun w hw => ih w hw w rfl

end Expr

end FilterCriteria
