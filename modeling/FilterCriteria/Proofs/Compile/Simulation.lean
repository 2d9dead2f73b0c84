/-
Compilation keeps the meaning of queries. The parameter of a lambda becomes
a number of markers, a chain of filters one condition, and a conditional in
the alternative of another part of the same choice; in every scope, however
lambdas nest and shadow one another, the criterion means what the query
means.

# The invariant

The proof follows the derivation that an expression is a query, with one
invariant for each role (`Simulates`): paths are compared name by name,
collections by the elements they keep, and selectors element by element. A
path is known with its markers and its names apart, since a member added to
it goes to the end of the names; a collection is known as the aggregate that
it can be opened as, since a filter around it adds a condition to that.

Each way to make a query has its own lemma, which takes the invariants of the
parts and gives that of the whole; the induction (`Query.simulates`) only
names them. Two facts about data carry it: filters one after the other are
one filter by the conjunction of their conditions (`kept_filter`), and the
markers in front of a path count the records around (`atPath_markers`,
`recordOf_eq_headD`).
-/
import FilterCriteria.Proofs.Compile.Meaning

namespace FilterCriteria

open Compile

-- =============================================================== paths

namespace Interpretation

variable {D : Type} (I : Interpretation D)

/-- A name without a point leads to the field of that name. -/
theorem follow_name {name : String} (h : '.' ∉ name.toList) (d : D) :
    I.follow name.toList d = I.field d name := by
  unfold follow
  rw [List.splitOn_eq_singleton h]
  simp

/-- A name at the end of a chain is followed last. -/
theorem follow_snoc (names : List Char) {name : String}
    (h : '.' ∉ name.toList) (d : D) :
    I.follow (names ++ '.' :: name.toList) d
      = I.field (I.follow names d) name := by
  unfold follow
  rw [List.splitOn_append_cons_self, List.foldl_append,
    List.splitOn_eq_singleton h]
  simp

/-- A path without a marker starts at the innermost record. -/
theorem atPath_of_not_mem {names : List Char} (h : '^' ∉ names)
    (stack : List D) :
    I.atPath stack names = I.follow names (stack.headD I.undefined) := by
  match names with
  | [] => rfl
  | c :: rest =>
      have hc : c ≠ '^' := fun hc => h (hc ▸ List.mem_cons_self ..)
      unfold atPath
      split
      · next hcs =>
        injection hcs with hc'
        exact absurd hc' hc
      · rfl

/-- As many markers, as many records are left. -/
theorem atPath_markers (hops : Nat) {names : String}
    (h : '^' ∉ names.toList) (stack : List D) :
    I.atPath stack (Scope.markers hops ++ names).toList
      = I.follow names.toList ((stack.drop hops).headD I.undefined) := by
  induction hops generalizing stack with
  | zero =>
      rw [show Scope.markers 0 ++ names = names by simp [Scope.markers]]
      exact I.atPath_of_not_mem h stack
  | succ hops ih =>
      have hstep : (Scope.markers (hops + 1) ++ names).toList
          = '^' :: '.' :: (Scope.markers hops ++ names).toList := by
        simp [Scope.markers, Scope.parentMarker, List.replicate_succ]
      rw [hstep, atPath, ih, List.drop_tail]

end Interpretation

namespace Expr

variable {D : Type} (I : Interpretation D)

/-- The innermost entry of a parameter is as many records out as there are
lambdas in between. -/
theorem recordOf_eq_headD {p : Param} {hops : Nat} (env : List (Param × D))
    (h : (env.map Prod.fst).findIdx? p.same = some hops) :
    recordOf I p env
      = ((env.map Prod.snd).drop hops).headD I.undefined := by
  induction env generalizing hops with
  | nil => simp at h
  | cons entry rest ih =>
      obtain ⟨q, x⟩ := entry
      rw [List.map_cons, List.findIdx?_cons] at h
      unfold recordOf
      by_cases hq : p.same q = true
      · rw [if_pos hq] at h ⊢
        injection h with h
        subst h
        rfl
      · rw [if_neg hq] at h ⊢
        obtain ⟨k, hk, rfl⟩ := Option.map_eq_some_iff.mp h
        exact ih hk

end Expr

-- ========================================================== reductions

namespace Reduction

variable {D : Type} (I : Interpretation D)

/-- The elements that an aggregate in the making keeps. -/
def kept (r : Reduction) (stack : List D) : List D :=
  (I.elements (I.atPath stack r.collection.toList)).filter fun x =>
    Criterion.admits I r.condition (x :: stack)

/-- A condition more keeps what it holds for, of what was kept before. -/
theorem kept_filter (r : Reduction) (c : Criterion) (stack : List D) :
    (r.filter (some c)).kept I stack
      = (r.kept I stack).filter fun x => I.holds (c.meaning I (x :: stack)) := by
  unfold kept
  rw [List.filter_filter]
  refine List.filter_congr fun x _ => ?_
  unfold filter
  cases r.condition with
  | none => simp [Criterion.admits]
  | some old =>
      simp only [Criterion.admits, Criterion.meaning,
        Criterion.BinaryOp.operation, I.holds_conjunction]
      exact Bool.and_comm ..

/-- No condition more keeps what was kept before. -/
theorem kept_filter_none (r : Reduction) (stack : List D) :
    (r.filter none).kept I stack = r.kept I stack := by
  unfold kept filter
  cases r.condition <;> rfl

end Reduction

/-- The aggregate of a reduction. -/
def Reducer.aggregate : Reducer → Criterion.Aggregate
  | .existence => .any
  | .number => .count
  | .total => .sum
  | .least => .min
  | .greatest => .max
  | .mean => .avg

/-- What the lambda of a reduction is for. -/
def Reducer.role (r : Reducer) : LambdaRole :=
  if r.filters then .condition else .projection

theorem Reducer.meaning_aggregate {D : Type} (I : Interpretation D)
    (r : Reducer) (xs : List D) :
    r.aggregate.meaning I xs = I.reduce r xs := by
  cases r <;> rfl

/-- The methods that reduce a collection compile to aggregates. -/
theorem sequenceMethod?_of_reducer? {name : String} {r : Reducer}
    (h : Expr.reducer? name = some r) :
    name ≠ "Contains" ∧ sequenceMethod? name = some (r.aggregate, r.role) := by
  unfold Expr.reducer? at h
  split at h <;> cases h <;> exact ⟨by decide, rfl⟩

/-- A finished aggregate is made of the elements that it keeps. -/
theorem Reduction.meaning_toCriterion {D : Type} (I : Interpretation D)
    (s : Reduction) (stack : List D) :
    s.toCriterion.meaning I stack
      = s.kind.meaning I ((s.kept I stack).map fun x =>
          Criterion.projected I s.expression x stack) := rfl

namespace Compile

variable {D : Type} (I : Interpretation D) (r : Reducer) (s : Reduction)

/-- A reduction without a lambda is made of the elements kept so far. -/
theorem meaning_nextStep_none (stack : List D) :
    (nextStep r.aggregate r.role none s).meaning I stack
      = I.reduce r (s.kept I stack) := by
  have hself : ∀ xs : List D,
      (xs.map fun x => Criterion.projected I none x stack) = xs := fun xs =>
    List.map_id' xs
  unfold nextStep Reducer.role
  cases hr : r.filters with
  | true =>
      rw [if_pos rfl, Reduction.meaning_toCriterion]
      exact (r.meaning_aggregate I _).trans
        (by rw [← s.kept_filter_none I stack]; exact congrArg _ (hself _))
  | false =>
      rw [if_neg (by decide), Reduction.meaning_toCriterion]
      exact (r.meaning_aggregate I _).trans (congrArg _ (hself _))

/-- A reduction with a condition is made of the elements it holds for. -/
theorem meaning_nextStep_condition (hr : r.filters = true) (c : Criterion)
    (stack : List D) :
    (nextStep r.aggregate r.role (some c) s).meaning I stack
      = I.reduce r ((s.kept I stack).filter fun x =>
          I.holds (c.meaning I (x :: stack))) := by
  unfold nextStep Reducer.role
  rw [if_pos hr, Reduction.meaning_toCriterion, ← s.kept_filter I c stack]
  exact (r.meaning_aggregate I _).trans (congrArg _ (List.map_id' _))

/-- A reduction with a projection is made of what that is for each element. -/
theorem meaning_nextStep_projection (hr : r.filters = false) (c : Criterion)
    (stack : List D) :
    (nextStep r.aggregate r.role (some c) s).meaning I stack
      = I.reduce r ((s.kept I stack).map fun x =>
          c.meaning I (x :: stack)) := by
  unfold nextStep Reducer.role
  rw [if_neg (by simp [hr]), Reduction.meaning_toCriterion]
  exact r.meaning_aggregate I _

end Compile

-- ==================================================== never a constant

namespace Expr

/-- A path reads a record, and so does what is filtered of one: neither is
a constant to any evaluator. -/
theorem Query.fold_eq_none (ev : Evaluator) {role : Role}
    {scope : List Param} {e : Expr} (h : Query role scope e)
    (hr : role = .path ∨ role = .collection) : e.fold ev = .ok none := by
  induction h with
  | member pty ty bound plain => rfl
  | chain ty hobject accessor plain ih =>
      unfold fold
      rw [ih (Or.inl rfl)]
      rfl
  | root he ih => exact ih (Or.inl rfl)
  | filter ty hmethod hname hsource hselector ih _ =>
      unfold fold foldAll
      rw [ih (Or.inr rfl)]
      rfl
  | _ => simp at hr

/-- A path is a member, and holds a parameter. -/
theorem Query.path_shape {scope : List Param} {e : Expr}
    (h : Query .path scope e) :
    (∃ object name ty, e = .member object name ty) ∧ e.isClosed = false := by
  generalize hr : Role.path = role at h
  induction h with
  | member pty ty bound plain => exact ⟨⟨_, _, _, rfl⟩, rfl⟩
  | chain ty hobject accessor plain ih => exact ⟨⟨_, _, _, rfl⟩, (ih hr).2⟩
  | _ => cases hr

/-- A call on a collection is the next step of its aggregate. -/
theorem compileIn_sequenceCall {cenv : Environment} {scope : Scope}
    {method : Method} {source : Expr} {rest : List Expr} (ty : Ty)
    {kind : Criterion.Aggregate} {role : LambdaRole} {c : Criterion}
    {s : Reduction} {f : Option Criterion}
    (hmethod : method.onSequence = true)
    (hname : method.name ≠ "Contains")
    (hkind : sequenceMethod? method.name = some (kind, role))
    (hfold : source.fold cenv.evaluator = .ok none)
    (hsource : source.compileIn cenv scope = .ok c)
    (hreduction : Reduction.ofCriterion? c = some s)
    (hrest : compileEach cenv scope rest = f.toList.map .ok) :
    (Expr.call method (source :: rest) ty).compileIn cenv scope
      = .ok (nextStep kind role f s) := by
  have hcall : (Expr.call method (source :: rest) ty).fold cenv.evaluator
      = .ok none := by
    unfold fold foldAll
    rw [hfold]
    rfl
  have hstep : Compile.reduction source c = .ok s := by
    unfold Compile.reduction
    rw [hreduction]
  unfold compileIn Compile.call foldedOr Compile.fold
  rw [hcall]
  show (if method.onSequence then _ else _) = _
  rw [if_pos hmethod]
  unfold sequenceCall
  rw [if_neg (fun h => hname h.1), hkind]
  unfold compileEach aggregateCall
  rw [hsource, hrest]
  show (do let r ← Compile.reduction source c; _) = _
  rw [hstep]
  cases f <;> rfl

/-- A conditional has a choice for its criterion, if it has one. -/
theorem compileIn_conditional_function {cenv : Environment} {scope : Scope}
    {test ifTrue ifFalse : Expr} {ty : Ty} {f : Criterion.Function}
    {operands : List Criterion}
    (h : (Expr.conditional test ifTrue ifFalse ty).compileIn cenv scope
      = .ok (.function f operands)) : f = .builtin .iif := by
  unfold compileIn Compile.conditional at h
  cases ht : test.compileIn cenv scope with
  | error e => rw [ht] at h; cases h
  | ok t =>
      cases hy : ifTrue.compileIn cenv scope with
      | error e => rw [ht, hy] at h; cases h
      | ok y =>
          cases hn : ifFalse.compileIn cenv scope with
          | error e => rw [ht, hy, hn] at h; cases h
          | ok n =>
              rw [ht, hy, hn] at h
              cases h
              rfl

/-- The operator of the criteria language for an operator stands for the
same operation. -/
theorem binaryOperator?_operation {op : BinaryOp}
    (h : op.operation?.isSome = true) :
    ∃ target, binaryOperator? op = some target
      ∧ op.operation? = some target.operation := by
  cases op <;> first
    | exact ⟨_, rfl, rfl⟩
    | cases h

end Expr

-- ====================================================== the invariant

/-- What a part of a query and its criterion have in common, by its role:
the criterion exists, and in all records for the scope it means the same. -/
def Simulates (cenv : Environment) (scope : List Param) (e : Expr) :
    Expr.Role → Prop
  | .path => ∃ hops names,
      e.compileIn cenv ⟨scope⟩
        = .ok (.property (Scope.markers hops ++ names))
      ∧ '^' ∉ names.toList
      ∧ ∀ {D : Type} (I : Interpretation D) (env : List (Param × D)),
          env.map Prod.fst = scope →
          I.follow names.toList
              (((env.map Prod.snd).drop hops).headD I.undefined)
            = e.meaning I env
  | .value => ∃ c,
      e.compileIn cenv ⟨scope⟩ = .ok c
      ∧ ∀ {D : Type} (I : Interpretation D) (env : List (Param × D)),
          env.map Prod.fst = scope →
          c.meaning I (env.map Prod.snd) = e.meaning I env
  | .collection => ∃ c s,
      e.compileIn cenv ⟨scope⟩ = .ok c
      ∧ Reduction.ofCriterion? c = some s
      ∧ ∀ {D : Type} (I : Interpretation D) (env : List (Param × D)),
          env.map Prod.fst = scope →
          s.kept I (env.map Prod.snd) = e.elements I env
  | .selector => ∃ c,
      e.compileIn cenv ⟨scope⟩ = .ok c
      ∧ ∀ {D : Type} (I : Interpretation D) (env : List (Param × D)),
          env.map Prod.fst = scope →
          ∀ x, c.meaning I (x :: env.map Prod.snd) = e.applied I x env

namespace Simulates

open FilterCriteria.Expr

variable {cenv : Environment} {scope : List Param}

/-- The first member of a path takes one marker for each lambda between its
parameter and here. -/
theorem member {p : Param} (pty : Ty) {name : String} (ty : Ty)
    (bound : scope.any p.same = true) (plain : PlainName name) :
    Simulates cenv scope (.member (.param p pty) name ty) .path := by
  obtain ⟨hops, hhops⟩ : ∃ hops, scope.findIdx? p.same = some hops := by
    rw [← Option.isSome_iff_exists, List.findIdx?_isSome]
    exact bound
  refine ⟨hops, name, ?_, plain.2, fun I env henv => ?_⟩
  · have hpath : Scope.path? ⟨scope⟩ p = some (Scope.markers hops) :=
      congrArg (Option.map Scope.markers) hhops
    show paramMember ⟨scope⟩ p name = _
    unfold paramMember
    rw [hpath]
  · subst henv
    rw [I.follow_name plain.1, ← recordOf_eq_headD I env hhops]
    rfl

/-- A member more is a name more at the end of the path. -/
theorem chain {object : Expr} {name : String} (ty : Ty)
    (hobject : Query .path scope object)
    (accessor : memberFunction? object.type name = none)
    (plain : PlainName name)
    (ih : Simulates cenv scope object .path) :
    Simulates cenv scope (.member object name ty) .path := by
  obtain ⟨hops, names, hcompile, hnames, hmeaning⟩ := ih
  obtain ⟨⟨object', name', ty', rfl⟩, hclosed⟩ := hobject.path_shape
  refine ⟨hops, names ++ "." ++ name, ?_, ?_, fun I env henv => ?_⟩
  · unfold compileIn
    rw [hcompile]
    unfold Compile.member
    rw [accessor]
    show (if _ then _ else _) = _
    rw [if_neg (by simp [hclosed])]
    show Except.ok _ = Except.ok _
    simp only [String.append_assoc]
  · have := plain.2
    simp_all
  · have hsnoc : (names ++ "." ++ name).toList
        = names.toList ++ '.' :: name.toList := by simp
    rw [hsnoc, I.follow_snoc _ plain.1, hmeaning I env henv]
    rfl

/-- A path is a property. -/
theorem ofPath {e : Expr} (ih : Simulates cenv scope e .path) :
    Simulates cenv scope e .value := by
  obtain ⟨hops, names, hcompile, hnames, hmeaning⟩ := ih
  refine ⟨_, hcompile, fun I env henv => ?_⟩
  rw [← hmeaning I env henv]
  exact I.atPath_markers hops hnames _

/-- A path is the collection of its elements. -/
theorem root {e : Expr} (he : Query .path scope e)
    (ih : Simulates cenv scope e .path) :
    Simulates cenv scope e .collection := by
  obtain ⟨hops, names, hcompile, hnames, hmeaning⟩ := ih
  obtain ⟨⟨object, name, ty, rfl⟩, -⟩ := he.path_shape
  refine ⟨_, _, hcompile, rfl, fun I env henv => ?_⟩
  have hall : (Reduction.ofCollection (Scope.markers hops ++ names)).kept I
      (env.map Prod.snd)
      = I.elements (I.atPath (env.map Prod.snd)
          (Scope.markers hops ++ names).toList) :=
    List.filter_eq_self.mpr fun _ _ => rfl
  rw [hall, I.atPath_markers hops hnames, hmeaning I env henv]
  rfl

/-- A filter more is a condition more. -/
theorem filter {method : Method} {source selector : Expr} (ty : Ty)
    (hmethod : method.onSequence = true) (hname : method.name = "Where")
    (hsource : Query .collection scope source)
    (ihs : Simulates cenv scope source .collection)
    (ihf : Simulates cenv scope selector .selector) :
    Simulates cenv scope (.call method [source, selector] ty) .collection := by
  obtain ⟨c, s, hc, hs, hkept⟩ := ihs
  obtain ⟨f, hf, hholds⟩ := ihf
  refine ⟨nextStep .any .condition (some f) s,
    ((s.withKind .any).project none).filter (some f), ?_, rfl,
    fun I env henv => ?_⟩
  · refine compileIn_sequenceCall ty hmethod ?_ ?_
      (hsource.fold_eq_none _ (Or.inr rfl)) hc hs (congrArg (· :: []) hf)
    · rw [hname]
      decide
    · rw [hname]
      rfl
  · have hstep := Reduction.kept_filter I ((s.withKind .any).project none) f
      (env.map Prod.snd)
    have hs : ((s.withKind .any).project none).kept I (env.map Prod.snd)
        = source.elements I env := hkept I env henv
    rw [hstep, hs, elements_where I ty env hname]
    exact List.filter_congr fun x _ => congrArg I.holds (hholds I env henv x)

/-- A reduction is made of the elements of its collection. -/
theorem reduction {method : Method} {source : Expr} (ty : Ty)
    (hmethod : method.onSequence = true)
    (hname : (reducer? method.name).isSome = true)
    (hsource : Query .collection scope source)
    (ihs : Simulates cenv scope source .collection) :
    Simulates cenv scope (.call method [source] ty) .value := by
  obtain ⟨c, s, hc, hs, hkept⟩ := ihs
  obtain ⟨r, hr⟩ := Option.isSome_iff_exists.mp hname
  obtain ⟨hcontains, hkind⟩ := sequenceMethod?_of_reducer? hr
  refine ⟨nextStep r.aggregate r.role none s, ?_, fun I env henv => ?_⟩
  · exact compileIn_sequenceCall ty hmethod hcontains hkind
      (hsource.fold_eq_none _ (Or.inr rfl)) hc hs rfl
  · rw [meaning_nextStep_none, hkept I env henv, meaning_reduction I ty env hr]

/-- A reduction with a lambda is made of the elements of its collection
that the lambda holds for, or of what the lambda is for them. -/
theorem reductionBy {method : Method} {source selector : Expr} (ty : Ty)
    (hmethod : method.onSequence = true)
    (hname : (reducer? method.name).isSome = true)
    (hsource : Query .collection scope source)
    (ihs : Simulates cenv scope source .collection)
    (ihf : Simulates cenv scope selector .selector) :
    Simulates cenv scope (.call method [source, selector] ty) .value := by
  obtain ⟨c, s, hc, hs, hkept⟩ := ihs
  obtain ⟨f, hf, hholds⟩ := ihf
  obtain ⟨r, hr⟩ := Option.isSome_iff_exists.mp hname
  obtain ⟨hcontains, hkind⟩ := sequenceMethod?_of_reducer? hr
  refine ⟨nextStep r.aggregate r.role (some f) s, ?_, fun I env henv => ?_⟩
  · exact compileIn_sequenceCall ty hmethod hcontains hkind
      (hsource.fold_eq_none _ (Or.inr rfl)) hc hs (congrArg (· :: []) hf)
  · rw [meaning_reductionBy I ty env hr]
    have hx := hholds I env henv
    cases hfilters : r.filters with
    | true =>
        rw [if_pos rfl, meaning_nextStep_condition I r s hfilters,
          hkept I env henv]
        simp only [hx]
    | false =>
        rw [if_neg (by decide), meaning_nextStep_projection I r s hfilters,
          hkept I env henv]
        simp only [hx]

/-- The body of a lambda is about the element, the innermost record. -/
theorem lambda {body : Expr} (p : Param) (ty : Ty)
    (ih : Simulates cenv (p :: scope) body .value) :
    Simulates cenv scope (.lambda [p] body ty) .selector := by
  obtain ⟨c, hc, hmeaning⟩ := ih
  refine ⟨c, hc, fun I env henv x => ?_⟩
  exact hmeaning I ((p, x) :: env) (congrArg (p :: ·) henv)

/-- A quote leaves no trace. -/
theorem quote {operand : Expr} (ty : Ty)
    (ih : Simulates cenv scope operand .selector) :
    Simulates cenv scope (.unary .quote operand ty) .selector := by
  obtain ⟨c, hc, hmeaning⟩ := ih
  exact ⟨c, hc, hmeaning⟩

/-- A constant is a literal. -/
theorem constant (v : Value) (ty : Ty) :
    Simulates cenv scope (.constant v ty) .value :=
  ⟨.literal v, rfl, fun _ _ _ => rfl⟩

/-- An operator with an operation becomes the operator of the criteria
language for it, and the first of two values that is not null a choice. -/
theorem binary {op : Expr.BinaryOp} {left right : Expr} (ty : Ty)
    (hop : op.operation?.isSome = true ∨ op = .coalesce)
    (ihl : Simulates cenv scope left .value)
    (ihr : Simulates cenv scope right .value) :
    Simulates cenv scope (.binary op left right ty) .value := by
  obtain ⟨l, hl, hleft⟩ := ihl
  obtain ⟨r, hr, hright⟩ := ihr
  rcases hop with hop | rfl
  · obtain ⟨target, htarget, hsame⟩ := binaryOperator?_operation hop
    refine ⟨.binary target l r, ?_, fun I env henv => ?_⟩
    · unfold compileIn Compile.binary
      rw [if_neg (by rintro rfl; cases htarget), htarget, hl, hr]
      rfl
    · unfold Criterion.meaning meaning Expr.BinaryOp.meaning
      rw [hsame, hleft I env henv, hright I env henv]
  · refine ⟨.builtin .iif [l.isNull, r, l], ?_, fun I env henv => ?_⟩
    · unfold compileIn Compile.binary
      rw [if_pos rfl, hl, hr]
      rfl
    · show (if I.holds (I.nullity (l.meaning I _)) then _ else _) = _
      rw [hleft I env henv]
      show (if _ then r.meaning I _ else l.meaning I _) = _
      rw [hleft I env henv, hright I env henv]
      rfl

/-- A complement is one of truth or of bits, by the type. -/
theorem unary {op : Expr.UnaryOp} {operand : Expr} (ty : Ty)
    (hop : op = .not ∨ op = .negate)
    (ih : Simulates cenv scope operand .value) :
    Simulates cenv scope (.unary op operand ty) .value := by
  obtain ⟨c, hc, hmeaning⟩ := ih
  rcases hop with rfl | rfl
  · refine ⟨.unary (if ty.isBool then .not else .bitwiseNot) c, ?_,
      fun I env henv => ?_⟩
    · unfold compileIn Compile.unary
      rw [hc]
      rfl
    · unfold Criterion.meaning meaning Expr.UnaryOp.meaning
      rw [hmeaning I env henv]
      cases ty.isBool <;> rfl
  · refine ⟨.unary .minus c, ?_, fun I env henv => ?_⟩
    · unfold compileIn Compile.unary
      rw [hc]
      rfl
    · unfold Criterion.meaning meaning Expr.UnaryOp.meaning
      rw [hmeaning I env henv]
      rfl

/-- The branches from an alternative on choose what the alternative means,
also where they are taken out of a choice of its own. -/
theorem choose_branches {alternative : Expr} {c : Criterion}
    (hc : alternative.compileIn cenv ⟨scope⟩ = .ok c) {D : Type}
    (I : Interpretation D) (stack : List D) :
    I.choose (Criterion.meanings I (branches alternative c) stack)
      = c.meaning I stack := by
  unfold branches
  split
  · next f operands =>
    have hf : f = .builtin .iif := compileIn_conditional_function hc
    subst hf
    rfl
  · rfl

/-- A conditional is a choice. -/
theorem conditional {test ifTrue ifFalse : Expr} (ty : Ty)
    (iht : Simulates cenv scope test .value)
    (ihy : Simulates cenv scope ifTrue .value)
    (ihn : Simulates cenv scope ifFalse .value) :
    Simulates cenv scope (.conditional test ifTrue ifFalse ty) .value := by
  obtain ⟨t, ht, htest⟩ := iht
  obtain ⟨y, hy, htrue⟩ := ihy
  obtain ⟨n, hn, hfalse⟩ := ihn
  refine ⟨.builtin .iif (t :: y :: branches ifFalse n), ?_,
    fun I env henv => ?_⟩
  · unfold compileIn Compile.conditional
    rw [ht, hy, hn]
    rfl
  · have hchoice : ∀ stack : List _,
        (Criterion.builtin .iif (t :: y :: branches ifFalse n)).meaning I stack
          = if I.holds (t.meaning I stack) then y.meaning I stack
            else n.meaning I stack := by
      intro stack
      rw [← choose_branches hn I stack]
      rfl
    rw [hchoice, htest I env henv, htrue I env henv, hfalse I env henv]
    rfl

end Simulates

-- ==================================================== the simulation

/-- The invariant holds of every part of a query: one lemma for each way to
make one. -/
theorem Expr.Query.simulates (cenv : Environment) {role : Expr.Role}
    {scope : List Param} {e : Expr} (h : Expr.Query role scope e) :
    Simulates cenv scope e role := by
  induction h with
  | member pty ty bound plain => exact .member pty ty bound plain
  | chain ty hobject accessor plain ih =>
      exact .chain ty hobject accessor plain ih
  | constant v ty => exact .constant v ty
  | ofPath he ih => exact ih.ofPath
  | binary ty hop _ _ ihl ihr => exact .binary ty hop ihl ihr
  | unary ty hop _ ih => exact .unary ty hop ih
  | conditional ty _ _ _ iht ihy ihn => exact .conditional ty iht ihy ihn
  | reduction ty hmethod hname hsource ih =>
      exact .reduction ty hmethod hname hsource ih
  | reductionBy ty hmethod hname hsource _ ihs ihf =>
      exact .reductionBy ty hmethod hname hsource ihs ihf
  | root he ih => exact .root he ih
  | filter ty hmethod hname hsource _ ihs ihf =>
      exact .filter ty hmethod hname hsource ihs ihf
  | lambda p ty _ ih => exact .lambda p ty ih
  | quote ty _ ih => exact .quote ty ih

/-- Compilation keeps the meaning of a query: it has a criterion in its
scope, and for all data and all records of the parameters in scope the
criterion means among the records what the query means for the
parameters. -/
theorem Expr.Query.compileIn_meaning (cenv : Environment)
    {scope : List Param} {e : Expr} (h : Expr.Query .value scope e) :
    ∃ c, e.compileIn cenv ⟨scope⟩ = .ok c
      ∧ ∀ {D : Type} (I : Interpretation D) (env : List (Param × D)),
          env.map Prod.fst = scope →
          c.meaning I (env.map Prod.snd) = e.meaning I env :=
  h.simulates cenv

-- ========================================================== an instance

namespace Interpretation

/-- Literal values as data: objects are records and arrays collections. Of
the operations only those that the query below asks for are filled in. -/
def ofValues : Interpretation Value where
  undefined := .null
  literal := id
  field d name := match d with
    | .object fields => (Assoc.find? name fields).getD .null
    | _ => .null
  elements d := d.elements?.getD []
  holds d := match d with
    | .bool b => b
    | _ => false
  binary op a b := match op, a, b with
    | .conjunction, .bool x, .bool y => .bool (x && y)
    | .above, .int x, .int y => .bool (y < x)
    | _, _, _ => .null
  negation d := d
  complement d := d
  opposite d := d
  identity d := d
  nullity d := .bool d.isNull
  reduce r xs := match r with
    | .existence => .bool !xs.isEmpty
    | _ => .int (.ofNat xs.length)
  single xs := xs.headD .null
  call _ _ := .null
  among _ _ := .null
  holds_conjunction a b := by
    cases a <;> cases b <;> first | rfl | simp

end Interpretation

namespace Expr

/-- A customer of a shop, and one of the customer's orders. -/
def customer : Param := ⟨0, "c", .object "Customer"⟩
def order : Param := ⟨1, "o", .object "Order"⟩

/-- `c.Orders.Where(o => o.Total > c.Limit).Any(c => c.Paid)`: the second
lambda shadows the parameter of the query. -/
def paidLargeOrders : Expr :=
  let read p name ty := Expr.member (.ofParam p) name ty
  let large := Expr.ofBinary .greaterThan (read order "Total" .int32)
    (read customer "Limit" .int32)
  let filtered := Expr.call (.enumerable "Where")
    [read customer "Orders" (.sequence order.ty), .ofLambda [order] large]
    (.sequence order.ty)
  .call (.enumerable "Any")
    [filtered, .ofLambda [customer] (read customer "Paid" .bool)] .bool

/-- A customer with a limit of 5 and a paid order of 7. -/
def goodCustomer : Value :=
  .object [("Limit", .int 5),
    ("Orders", .array [.object [("Paid", .bool true), ("Total", .int 7)]])]

theorem query_paidLargeOrders : Query .value [customer] paidLargeOrders := by
  refine .reductionBy _ rfl rfl (.filter _ rfl rfl ?_ (.lambda _ _ ?_))
    (.lambda _ _ (.ofPath ?_))
  · exact .root (.member _ _ rfl ⟨by decide, by decide⟩)
  · refine .binary _ (Or.inl rfl) (.ofPath ?_) (.ofPath ?_)
    · exact .member _ _ rfl ⟨by decide, by decide⟩
    · exact .member _ _ rfl ⟨by decide, by decide⟩
  · exact .member _ _ rfl ⟨by decide, by decide⟩

theorem meaning_paidLargeOrders :
    Query .value [customer] paidLargeOrders
      ∧ ∃ c, paidLargeOrders.compileIn ⟨.empty, .bare⟩ ⟨[customer]⟩ = .ok c
        ∧ c.meaning .ofValues [goodCustomer] = .bool true := by
  obtain ⟨c, hc, hmeaning⟩ :=
    query_paidLargeOrders.compileIn_meaning ⟨.empty, .bare⟩
  refine ⟨query_paidLargeOrders, c, hc, ?_⟩
  exact hmeaning .ofValues [(customer, goodCustomer)] rfl

end Expr

end FilterCriteria
