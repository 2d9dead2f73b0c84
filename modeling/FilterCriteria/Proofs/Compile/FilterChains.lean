/-
Chains of filters. Calls of `Where` on a collection, however many, and the
method that ends the chain make one aggregate over the collection: each call
opens the aggregate of the one before again and adds its condition. So the
conditions of a chain stand in the order of its calls, none is lost and none
is there twice.

# The links

One call takes the aggregate that its source has become apart and makes the
next one (`compileIn_link`). What a chain has become after some of its calls
is therefore told by the conditions alone (`chainReduction`): the collection
stays, and the condition is their conjunction. The induction is over the calls
from the last one back, since the last call is the outermost expression
(`reduction_filtered`).

The main statement (`compileIn_filterChain`) says what comes out, for chains
of every length, and which error is reported where nothing does: that of the
first lambda that does not compile, in the order of the calls.
-/
import Mathlib.Data.List.Induction
import FilterCriteria.Proofs.Compile.Derivation

namespace FilterCriteria

open Compile

-- ========================================================== conditions

namespace Criterion

/-- The conditions of a list joined from the left, if there is one. -/
def conjunction? : List Criterion → Option Criterion
  | [] => none
  | c :: rest => some (rest.foldl (.binary .and) c)

/-- A condition more is the right side of the conjunction, or all of it. -/
theorem conjunction?_concat (cs : List Criterion) (c : Criterion) :
    conjunction? (cs ++ [c])
      = some ((conjunction? cs).elim c fun d => .binary .and d c) := by
  cases cs with
  | nil => rfl
  | cons d rest => simp [conjunction?]

end Criterion

/-- Adding a condition puts it at the end of the row. -/
theorem Reduction.filter_conjunction? (collection : String)
    (kind : Criterion.Aggregate) (expression : Option Criterion)
    (cs : List Criterion) (added : Option Criterion) :
    Reduction.filter added
        ⟨collection, kind, expression, Criterion.conjunction? cs⟩
      = ⟨collection, kind, expression,
          Criterion.conjunction? (cs ++ added.toList)⟩ := by
  cases added with
  | none =>
      rw [Option.toList_none, List.append_nil]
      unfold Reduction.filter
      cases Criterion.conjunction? cs <;> rfl
  | some c =>
      rw [Option.toList_some, Criterion.conjunction?_concat]
      unfold Reduction.filter
      cases Criterion.conjunction? cs <;> rfl

namespace Expr

-- =========================================================== the chain

/-- A call of `Where`, but for the collection. -/
structure WhereCall where
  method : Method
  lambda : Expr
  ty : Ty
  onSequence : method.onSequence = true
  named : method.name = "Where"

def WhereCall.on (w : WhereCall) (source : Expr) : Expr :=
  .call w.method [source, w.lambda] w.ty

/-- The collection with calls of `Where` on it, one after the other. -/
def filtered (root : Expr) (calls : List WhereCall) : Expr :=
  calls.foldl (fun source w => w.on source) root

theorem filtered_concat (root : Expr) (calls : List WhereCall)
    (w : WhereCall) :
    filtered root (calls ++ [w]) = w.on (filtered root calls) :=
  List.foldl_append ..

/-- The methods that can end a chain: the aggregate that each makes, and the
role of its lambda. -/
def chainMethods : List (String × Criterion.Aggregate × LambdaRole) :=
  [("Average", .avg, .projection), ("Max", .max, .projection),
    ("Min", .min, .projection), ("Sum", .sum, .projection),
    ("Count", .count, .condition), ("Any", .any, .condition),
    ("Where", .any, .condition), ("Single", .single, .condition),
    ("SingleOrDefault", .single, .condition)]

theorem sequenceMethod?_of_mem :
    ∀ m ∈ chainMethods, sequenceMethod? m.1 = some m.2 := by
  decide

/-- The methods that end a chain are aggregates, and of which kind the table
says. -/
theorem aggregate?_of_mem {method : Method} {kind : Criterion.Aggregate}
    {role : LambdaRole} (hmethod : method.onSequence = true)
    (hname : (method.name, kind, role) ∈ chainMethods) :
    method.aggregate? = some (kind, role) := by
  unfold Method.aggregate?
  rw [if_pos hmethod]
  exact sequenceMethod?_of_mem _ hname

-- ========================================================= not constant

variable {env : Environment} {scope : Scope} {root : Expr} {path : String}

/-- What compiles to a property is not constant, and there is nothing in it
to fail. -/
theorem CompilesTo.fold_of_path? {e : Expr} {c : Criterion}
    (h : CompilesTo env scope e c) (hc : c.path? = some path) :
    e.fold env.evaluator = .ok none := by
  induction h generalizing path with
  | property | quote | lambda => rfl
  | path ty hread hopen hobject ih =>
      rw [fold_member, ih rfl]
      rfl
  | referenceCast hcast hoperand ih =>
      rw [fold_convert, ih hc]
      rfl
  | aggregate hcall hmethod hfold | aggregateBy hcall hmethod hfold =>
      exact hfold
  | _ => cases hc

theorem fold_call_of_source {source : Expr} {rest : List Expr}
    {method : Method} {ty : Ty}
    (h : source.fold env.evaluator = .ok none) :
    (Expr.call method (source :: rest) ty).fold env.evaluator = .ok none := by
  rw [fold_call, foldAll_cons, h]
  rfl

/-- A chain over a collection that is not constant is not constant, so each of
its calls is compiled. -/
theorem fold_filtered (hroot : root.fold env.evaluator = .ok none)
    (calls : List WhereCall) :
    (filtered root calls).fold env.evaluator = .ok none := by
  induction calls using List.reverseRecOn with
  | nil => exact hroot
  | append_singleton calls w ih =>
      rw [filtered_concat]
      exact fold_call_of_source ih

-- ============================================================ one link

/-- A method of the chain goes on with what its collection has become, and
asks for its lambda after that. -/
theorem compileIn_link {source : Expr}
    (hsource : source.fold env.evaluator = .ok none) {method : Method}
    {kind : Criterion.Aggregate} {role : LambdaRole}
    (hmethod : method.aggregate? = some (kind, role)) (lambda : Option Expr)
    (ty : Ty) :
    (Expr.call method (source :: lambda.toList) ty).compileIn env scope
      = source.compileIn env scope >>= Compile.reduction source >>= fun r =>
          inOrder (compileEach env scope lambda.toList) >>= fun ls =>
            pure (nextStep kind role ls.head? r) := by
  rw [compileIn_of_aggregate? (.call _ ty) (fold_call_of_source hsource)
    hmethod]
  change source.compileIn env scope >>= _ = _
  cases source.compileIn env scope with
  | error error => rfl
  | ok c =>
      change Compile.reduction source c >>= _
        = Compile.reduction source c >>= _
      cases Compile.reduction source c with
      | error error => rfl
      | ok r =>
          cases lambda with
          | none => rfl
          | some l =>
              change (l.compileIn env scope).map some >>= _
                = (l.compileIn env scope >>= _) >>= _
              cases l.compileIn env scope <;> rfl

/-- The aggregate that the conditions so far make of a collection. -/
def chainReduction (path : String) (cs : List Criterion) : Reduction :=
  ⟨path, .any, none, Criterion.conjunction? cs⟩

/-- The end of a chain has its lambda for each element, or as one more
condition. -/
theorem nextStep_chainReduction (kind : Criterion.Aggregate)
    (role : LambdaRole) (l : Option Criterion) (cs : List Criterion) :
    nextStep kind role l (chainReduction path cs)
      = .aggregate path kind (if role = .projection then l else none)
          (Criterion.conjunction?
            (cs ++ if role = .condition then l.toList else [])) := by
  cases role with
  | projection =>
      rw [if_pos rfl, if_neg (by decide), List.append_nil]
      rfl
  | condition =>
      rw [if_neg (by decide), if_pos rfl]
      unfold nextStep chainReduction
      simp only [Reduction.withKind, Reduction.project,
        Reduction.filter_conjunction?]
      rfl

/-- One more call of `Where` is one more condition. -/
theorem reduction_nextStep_where (e : Expr) (cs : List Criterion)
    (l : Criterion) :
    Compile.reduction e (nextStep .any .condition (some l)
        (chainReduction path cs))
      = .ok (chainReduction path (cs ++ [l])) := by
  rw [nextStep_chainReduction]
  rfl

-- ======================================================== the chain

theorem inOrder_cons (r : Result) (rs : List Result) :
    inOrder (r :: rs) = r >>= fun c => inOrder rs >>= fun cs =>
      pure (c :: cs) := rfl

/-- Results in two rows, one after the other, are results in a row. -/
theorem inOrder_append (rs ss : List Result) :
    inOrder (rs ++ ss) = inOrder rs >>= fun cs => inOrder ss >>= fun ds =>
      pure (cs ++ ds) := by
  induction rs with
  | nil => exact (bind_pure _).symm
  | cons r rs ih =>
      rw [List.cons_append, inOrder_cons, ih, inOrder_cons]
      simp only [bind_assoc, pure_bind, List.cons_append]

/-- Operands are compiled each for itself. -/
theorem compileEach_append (as bs : List Expr) :
    compileEach env scope (as ++ bs)
      = compileEach env scope as ++ compileEach env scope bs := by
  induction as with
  | nil => rfl
  | cons a as ih => exact congrArg (a.compileIn env scope :: ·) ih

/-- Calls of `Where` make the aggregate of their conditions, in their
order: the run of the chain, call by call. -/
theorem reduction_filtered
    (hroot : root.compileIn env scope = .ok (.property path))
    (calls : List WhereCall) (e : Expr) :
    (filtered root calls).compileIn env scope >>= Compile.reduction e
      = inOrder (compileEach env scope (calls.map (·.lambda))) >>= fun cs =>
          pure (chainReduction path cs) := by
  have hfold := (compileIn_eq_ok_iff.mp hroot).fold_of_path? rfl
  induction calls using List.reverseRecOn generalizing e with
  | nil =>
      change root.compileIn env scope >>= _ = _
      rw [hroot]
      rfl
  | append_singleton calls w ih =>
      have hmethod : w.method.aggregate? = some (.any, .condition) :=
        aggregate?_of_mem w.onSequence (by rw [w.named]; decide)
      have hlink : (w.on (filtered root calls)).compileIn env scope = _ :=
        compileIn_link (fold_filtered hfold calls) hmethod (some w.lambda) w.ty
      rw [filtered_concat, hlink, ih, List.map_append, compileEach_append,
        inOrder_append]
      simp only [bind_assoc, pure_bind]
      -- the earlier conditions are the same on both sides
      refine bind_congr fun cs => ?_
      change inOrder [w.lambda.compileIn env scope] >>= _
        = inOrder [w.lambda.compileIn env scope] >>= _
      cases w.lambda.compileIn env scope with
      | error error => rfl
      | ok l => exact reduction_nextStep_where e cs l

/-- The method at the end goes on with the aggregate of all the conditions,
which are asked for before its own lambda. -/
theorem compileIn_chainEnd
    (hroot : root.compileIn env scope = .ok (.property path))
    (calls : List WhereCall) {method : Method} {kind : Criterion.Aggregate}
    {role : LambdaRole} (hmethod : method.aggregate? = some (kind, role))
    (lambda : Option Expr) (ty : Ty) :
    (Expr.call method (filtered root calls :: lambda.toList) ty).compileIn env
        scope
      = inOrder (compileEach env scope (calls.map (·.lambda))) >>= fun cs =>
          inOrder (compileEach env scope lambda.toList) >>= fun ls =>
            pure (nextStep kind role ls.head? (chainReduction path cs)) := by
  have hfold := (compileIn_eq_ok_iff.mp hroot).fold_of_path? rfl
  rw [compileIn_link (fold_filtered hfold calls) hmethod,
    reduction_filtered hroot calls]
  simp only [bind_assoc, pure_bind]

/-- A lambda that there may be none of, in a row of its own. -/
theorem inOrder_toList_eq_ok {lambda : Option Expr} {l : Option Criterion} :
    (∃ ls, inOrder (compileEach env scope lambda.toList) = .ok ls
        ∧ ls.head? = l)
      ↔ Option.Rel (fun a c => a.compileIn env scope = .ok c) lambda l := by
  simp only [inOrder_compileEach]
  constructor
  · rintro ⟨ls, hls, rfl⟩
    cases lambda with
    | none =>
        cases hls
        exact .none
    | some a =>
        obtain ⟨c, rest, hc, -, rfl⟩ := List.forall₂_cons_left_iff.mp hls
        exact .some hc
  · intro h
    cases h with
    | none => exact ⟨[], .nil, rfl⟩
    | some hc => exact ⟨[_], .cons hc .nil, rfl⟩

/-- A chain of filters of any length and the method at its end make one
aggregate over the collection: of the kind of the method, with the lambda of
the method for each element or as the last condition, and with the
conditions of the filters in their order. It compiles exactly if all the
lambdas do, and otherwise fails as the first of them that does. -/
theorem compileIn_filterChain
    (hroot : root.compileIn env scope = .ok (.property path))
    (calls : List WhereCall) {method : Method} {kind : Criterion.Aggregate}
    {role : LambdaRole} (hmethod : method.onSequence = true)
    (hname : (method.name, kind, role) ∈ chainMethods)
    (lambda : Option Expr) (ty : Ty) :
    let e := Expr.call method (filtered root calls :: lambda.toList) ty
    (∀ t, e.compileIn env scope = .ok t
      ↔ ∃ (cs : List Criterion) (l : Option Criterion),
        List.Forall₂ (fun w c => w.lambda.compileIn env scope = .ok c) calls cs
          ∧ Option.Rel (fun a c => a.compileIn env scope = .ok c) lambda l
          ∧ t = .aggregate path kind (if role = .projection then l else none)
              (Criterion.conjunction?
                (cs ++ if role = .condition then l.toList else [])))
      ∧ ∀ error, e.compileIn env scope = .error error
        ↔ FirstFails env scope (calls.map (·.lambda) ++ lambda.toList)
            error := by
  intro e
  have hcompile : e.compileIn env scope = _ :=
    compileIn_chainEnd hroot calls (aggregate?_of_mem hmethod hname) lambda ty
  constructor
  · intro t
    rw [hcompile]
    simp only [← inOrder_toList_eq_ok, ← nextStep_chainReduction]
    constructor
    · intro h
      obtain ⟨cs, hcs, h⟩ := bind_eq_ok.mp h
      obtain ⟨ls, hls, h⟩ := bind_eq_ok.mp h
      cases h
      exact ⟨cs, ls.head?,
        List.forall₂_map_left_iff.mp (inOrder_compileEach.mp hcs),
        ⟨ls, hls, rfl⟩, rfl⟩
    · rintro ⟨cs, l, hcs, ⟨ls, hls, rfl⟩, rfl⟩
      have hcs := inOrder_compileEach.mpr (List.forall₂_map_left_iff.mpr hcs)
      exact bind_eq_ok.mpr ⟨cs, hcs, bind_eq_ok.mpr ⟨ls, hls, rfl⟩⟩
  · intro error
    -- nothing fails behind the two rows, whatever is made of them
    have hpure : ∀ {α : Type} (a : α),
        (pure a : Except CompileError α) ≠ .error error := nofun
    rw [hcompile, ← inOrder_compileEach_eq_error, compileEach_append,
      inOrder_append]
    simp only [bind_eq_error, hpure, and_false, exists_false, or_false]

/-- `c.Orders.Where(o => o.Paid).Where(o => o.Late).Where(o => o.Large)`, and
then `.Sum(o => o.Total)` or `.Count(o => o.Gift)`. -/
theorem compileIn_filterChain_paidLateLarge :
    let env : Environment := ⟨.empty, .bare⟩
    let c : Param := ⟨0, "c", .object "Customer"⟩
    let o : Param := ⟨1, "o", .object "Order"⟩
    let root := Expr.member (.ofParam c) "Orders" (.sequence o.ty)
    let read := fun name ty => Expr.ofLambda [o] (.member (.ofParam o) name ty)
    let only := fun name => WhereCall.mk (.enumerable "Where")
      (read name .bool) (.sequence o.ty) rfl rfl
    let orders := filtered root [only "Paid", only "Late", only "Large"]
    let all := Criterion.binary .and
      (.binary .and (.property "Paid") (.property "Late")) (.property "Large")
    root.compileIn env ⟨[c]⟩ = .ok (.property "Orders")
      ∧ (Expr.call (.enumerable "Sum") [orders, read "Total" .decimal]
          .decimal).compileIn env ⟨[c]⟩
        = .ok (.aggregate "Orders" .sum (some (.property "Total")) (some all))
      ∧ (Expr.call (.enumerable "Count") [orders, read "Gift" .bool]
          .int32).compileIn env ⟨[c]⟩
        = .ok (.aggregate "Orders" .count none
            (some (.binary .and all (.property "Gift")))) := by
  intro env c o root read only orders all
  have hroot : root.compileIn env ⟨[c]⟩ = .ok (.property "Orders") := rfl
  have hconditions : List.Forall₂
      (fun w d => w.lambda.compileIn env ⟨[c]⟩ = .ok d)
      [only "Paid", only "Late", only "Large"]
      [.property "Paid", .property "Late", .property "Large"] :=
    .cons rfl (.cons rfl (.cons rfl .nil))
  have hsum : ((Method.enumerable "Sum").name, .sum, .projection)
      ∈ chainMethods := by decide
  have hcount : ((Method.enumerable "Count").name, .count, .condition)
      ∈ chainMethods := by decide
  refine ⟨hroot, ?_, ?_⟩
  · refine ((compileIn_filterChain hroot _ rfl hsum
      (some (read "Total" .decimal)) .decimal).1 _).mpr ?_
    exact ⟨_, some (.property "Total"), hconditions, .some rfl, rfl⟩
  · refine ((compileIn_filterChain hroot _ rfl hcount
      (some (read "Gift" .bool)) .int32).1 _).mpr ?_
    exact ⟨_, some (.property "Gift"), hconditions, .some rfl, rfl⟩

end Expr

end FilterCriteria
