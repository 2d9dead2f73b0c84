/-
Chains of aggregates. A method on a sequence goes on with the aggregate that
its collection has become. It keeps the collection and adds to the
condition, but the expression becomes its own: what was projected before is
forgotten. The member of a single element is such a projection, so an
aggregate of a collection inside that element is made of the collection that
the element is in.

# What becomes of a projection

A criterion is lost if it occurs nowhere in the result (`Occurs`). A step of
a chain makes its aggregate of three things: the collection and the condition
of the one before, and its own lambda. So what was only in the expression is
in the result exactly if the lambda has it again, or the condition had it
already (`occurs_nextStep`).

The main statement (`projection_occurs_iff`) says what becomes of the
projected part, and `projection_lost` is a chain that loses it. In
`projection_occurs_sameName` it is there, by the luck of a name.
-/
import FilterCriteria.Proofs.Compile.Derivation
import FilterCriteria.Proofs.Criterion.Every

namespace FilterCriteria

open Compile

-- ========================================================= occurrences

namespace Criterion

/-- The criterion is the other one or is inside it. -/
inductive Occurs (part : Criterion) : Criterion → Prop where
  | self : Occurs part part
  | inside {c d : Criterion} (hchild : c ∈ d.children) (h : Occurs part c) :
      Occurs part d

/-- A part of a criterion is the criterion or a part of one of its operands. -/
theorem occurs_iff {part c : Criterion} :
    part.Occurs c ↔ part = c ∨ ∃ d ∈ c.children, part.Occurs d := by
  constructor
  · intro h
    cases h with
    | self => exact Or.inl rfl
    | inside hchild h => exact Or.inr ⟨_, hchild, h⟩
  · rintro (rfl | ⟨d, hchild, h⟩)
    · exact .self
    · exact .inside hchild h

theorem occurs_property {part : Criterion} {path : String} :
    part.Occurs (.property path) ↔ part = .property path := by
  rw [occurs_iff]
  simp [children]

theorem occurs_binary {part left right : Criterion} {op : BinaryOp} :
    part.Occurs (.binary op left right)
      ↔ part = .binary op left right ∨ part.Occurs left
        ∨ part.Occurs right := by
  rw [occurs_iff]
  simp [children]

/-- A part of an aggregate is in its expression or in its condition; the
collection is a name and no criterion. -/
theorem occurs_aggregate {part : Criterion} {collection : String}
    {kind : Aggregate} {expression condition : Option Criterion} :
    part.Occurs (.aggregate collection kind expression condition)
      ↔ part = .aggregate collection kind expression condition
        ∨ (∃ c ∈ expression, part.Occurs c)
        ∨ ∃ c ∈ condition, part.Occurs c := by
  rw [occurs_iff]
  simp [children, or_and_right, exists_or]

end Criterion

-- ============================================================ next steps

/-- The condition after another one is added: either of the two, or both
joined. -/
theorem exists_occurs_filter {part : Criterion} (added : Option Criterion)
    (r : Reduction) :
    (∃ c ∈ (r.filter added).condition, part.Occurs c)
      ↔ (∃ c ∈ r.condition, part.Occurs c) ∨ (∃ l ∈ added, part.Occurs l)
        ∨ ∃ c ∈ r.condition, ∃ l ∈ added, part = .binary .and c l := by
  obtain ⟨collection, kind, expression, condition⟩ := r
  cases condition with
  | none => simp [Reduction.filter]
  | some c =>
      cases added with
      | none => simp [Reduction.filter]
      | some l =>
          simp only [Reduction.filter, Option.mem_some, exists_eq_left',
            Criterion.occurs_binary]
          rw [or_comm, or_assoc]

/-- What occurs after the next step of an aggregate: the parts of its
condition and those of the lambda, whatever its expression has been. -/
theorem occurs_nextStep {part : Criterion} (kind : Criterion.Aggregate)
    (role : LambdaRole) (lambda : Option Criterion) (r : Reduction) :
    part.Occurs (nextStep kind role lambda r)
      ↔ part = nextStep kind role lambda r
        ∨ (∃ c ∈ r.condition, part.Occurs c)
        ∨ (∃ l ∈ lambda, part.Occurs l)
        ∨ role = .condition
          ∧ ∃ c ∈ r.condition, ∃ l ∈ lambda, part = .binary .and c l := by
  cases role with
  | projection =>
      refine Criterion.occurs_aggregate.trans (or_congr_right ?_)
      simp only [reduceCtorEq, false_and, or_false]
      exact or_comm
  | condition =>
      refine Criterion.occurs_aggregate.trans (or_congr_right ?_)
      have hnone : ¬ ∃ c ∈ (none : Option Criterion), part.Occurs c := by simp
      simp only [true_and]
      exact (or_iff_right hnone).trans (exists_occurs_filter lambda _)

namespace Expr

variable {env : Environment} {scope : Scope} {e : Expr} {method : Method}
  {receiver : Option Expr}

/-- What compiles to an aggregate is not constant. -/
theorem CompilesTo.not_fold_of_collection? {c : Criterion}
    (h : CompilesTo env scope e c) {path : String}
    (hc : c.collection? = some path) (v : Value) :
    e.fold env.evaluator ≠ .ok (some v) := by
  induction h generalizing v with
  | projection ty hread hopen hobject =>
      intro hfold
      obtain ⟨w, hw⟩ := fold_of_mem_children hfold _ (List.mem_singleton_self _)
      rw [isClosed_of_fold _ w hw] at hopen
      cases hopen
  | referenceCast hcast hoperand ih =>
      intro hfold
      obtain ⟨w, hw⟩ := fold_of_mem_children hfold _ (List.mem_singleton_self _)
      exact ih hc w hw
  | aggregate hcall hmethod hfold | aggregateBy hcall hmethod hfold =>
      rw [hfold]
      nofun
  | quote | lambda => nofun
  | _ => cases hc

/-- What becomes of a projection. When the collection of an aggregate method
compiles to an aggregate with an expression, the outcome is the same as if
that aggregate had none. The expression occurs in it only by chance: as the
outcome itself, in the condition, in the criterion of the lambda, or as the
two joined. -/
theorem projection_occurs_iff {source : Expr} {rest : List Expr}
    {kind old : Criterion.Aggregate} {role : LambdaRole}
    (hcall : IsCall method receiver (source :: rest) e)
    (hmethod : method.aggregate? = some (kind, role)) {collection : String}
    {p : Criterion} {condition : Option Criterion}
    (hsource : source.compileIn env scope
      = .ok (.aggregate collection old (some p) condition))
    {t : Criterion} (h : e.compileIn env scope = .ok t) :
    ∃ lambda : Option Criterion,
      Compile.optional (rest.head?.map (compileIn env scope)) = .ok lambda
        ∧ t = nextStep kind role lambda ⟨collection, old, none, condition⟩
        ∧ (p.Occurs t ↔ p = t ∨ (∃ c ∈ condition, p.Occurs c)
          ∨ (∃ l ∈ lambda, p.Occurs l)
          ∨ role = .condition
            ∧ ∃ c ∈ condition, ∃ l ∈ lambda, p = .binary .and c l) := by
  -- the source lowers to a collection, so the call is not a constant
  have hfold : e.fold env.evaluator = .ok none := by
    refine (fold_of_compileIn_isCall hcall h).resolve_left ?_
    rintro ⟨v, hv, -⟩
    have hmem : source ∈ e.children := by simp [hcall.children]
    obtain ⟨w, hw⟩ := fold_of_mem_children hv source hmem
    exact (compileIn_eq_ok_iff.mp hsource).not_fold_of_collection? rfl w hw
  rw [compileIn_of_aggregate? hcall hfold hmethod] at h
  obtain ⟨first, c, r, hc, hr, hargs⟩ := aggregateCall_eq_ok.mp h
  obtain ⟨lambda, hlambda, hfirst, rfl⟩ : ∃ lambda,
      Compile.optional (rest.head?.map (compileIn env scope)) = .ok lambda
        ∧ first = source ∧ t = nextStep kind role lambda r := by
    rcases hargs with ⟨hargs, rfl⟩ | ⟨selector, further, l, hargs, hl, rfl⟩
    · cases hargs
      exact ⟨none, rfl, rfl, rfl⟩
    · cases hargs
      refine ⟨some l, ?_, rfl, rfl⟩
      simp [Compile.optional, hl, Except.map]
  rw [hfirst, hsource] at hc
  cases hc
  cases hr
  refine ⟨lambda, hlambda, ?_, occurs_nextStep kind role lambda _⟩
  cases role <;> rfl

/-- The customer, in what follows. -/
def buyer : Param := ⟨0, "c", .object "Customer"⟩

/-- `c.Orders.Single(o => o.Open).Lines`. -/
def openLines : Expr :=
  let o : Param := ⟨1, "o", .object "Order"⟩
  let orders := Expr.member (.ofParam buyer) "Orders" (.sequence o.ty)
  let isOpen := Expr.lambda [o] (.member (.ofParam o) "Open" .bool) .bool
  .member (.call (.enumerable "Single") [orders, isOpen] o.ty) "Lines"
    (.sequence (.object "Line"))

/-- In `….Lines.Any(l => l.Lines)` the projected path occurs by chance: the
lambda has a member of the same name. -/
theorem projection_occurs_sameName :
    let env : Environment := ⟨.empty, .bare⟩
    let scope := Scope.empty.enter buyer
    let l : Param := ⟨2, "l", .object "Line"⟩
    let nested := Expr.lambda [l] (.member (.ofParam l) "Lines" .bool) .bool
    let any := Expr.call (.enumerable "Any") [openLines, nested] .bool
    openLines.compileIn env scope = .ok (.aggregate "Orders" .single
        (some (.property "Lines")) (some (.property "Open")))
      ∧ ∃ t, any.compileIn env scope = .ok t
        ∧ t = nextStep .any .condition (some (.property "Lines"))
            ⟨"Orders", .single, none, some (.property "Open")⟩
        ∧ (Criterion.property "Lines").Occurs t := by
  intro env scope l nested any
  have hlines : openLines.compileIn env scope = .ok (.aggregate "Orders"
      .single (some (.property "Lines")) (some (.property "Open"))) := rfl
  obtain ⟨t, hany⟩ : ∃ t, any.compileIn env scope = .ok t := ⟨_, rfl⟩
  obtain ⟨lambda, hlambda, ht, hoccurs⟩ :=
    projection_occurs_iff (.call [openLines, nested] .bool) rfl hlines hany
  cases hlambda
  exact ⟨hlines, t, hany, ht,
    hoccurs.mpr (Or.inr (Or.inr (Or.inl ⟨_, rfl, .self⟩)))⟩

/-- The number of lines has no lines in it. -/
theorem projection_lost :
    let env : Environment := ⟨.empty, .bare⟩
    let scope := Scope.empty.enter buyer
    let count := Expr.call (.enumerable "Count") [openLines] .int32
    openLines.compileIn env scope = .ok (.aggregate "Orders" .single
        (some (.property "Lines")) (some (.property "Open")))
      ∧ ∃ t, count.compileIn env scope = .ok t
        ∧ ¬ (Criterion.property "Lines").Occurs t := by
  intro env scope count
  refine ⟨rfl, .aggregate "Orders" .count none (some (.property "Open")), rfl,
    ?_⟩
  rw [Criterion.occurs_aggregate]
  simp [Criterion.occurs_property]

end Expr

end FilterCriteria
