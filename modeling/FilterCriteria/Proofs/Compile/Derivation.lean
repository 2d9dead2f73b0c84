/-
The rules by which expressions have criteria, as a relation: one rule for
each way in which compilation succeeds, with what it asks of the expression
and of its parts. Compilation succeeds exactly by these rules
(`compileIn_eq_ok_iff`), so a statement about everything that compiles goes
by induction over them, and no rule is opened twice.

A list of operands compiles operand by operand; the rules pair the operands
with their criteria (`List.zip`), which keeps the relation free of lists of
derivations.

# Both ways

That what compiles is derived goes by induction over the operands, with a
lemma for each kind of node that has more than one rule
(`compilesTo_of_isCall`, `compilesTo_of_member`, `compilesTo_of_binary`,
`compilesTo_of_unary`). These take what is known of the operands as a
hypothesis, so they are no part of the induction and can be read one by one.
That what is derived compiles goes rule by rule (`CompilesTo.compileIn`), and
there the function calls are the long case, as they have their operands in
two orders.
-/
import FilterCriteria.Proofs.Compile.Calls
import FilterCriteria.Proofs.Eval.Fold

namespace FilterCriteria

open Compile

namespace Expr

-- ============================================================ the rules

/-- The expression calls the function, with these operands in this order. A
search for a text has the text first and the receiver after it. -/
inductive IsFunctionCall (env : Environment) :
    Expr → Criterion.Function → List Expr → Prop where
  | direct {e : Expr} {method : Method} {receiver : Option Expr}
      {args : List Expr} {f : Criterion.Function}
      (hcall : IsCall method receiver args e)
      (hmethod : method.aggregate? = none)
      (hcontains : method.onSequence = true → method.name = "Contains" →
        receiver.isSome = true)
      (hindexOf : method.name ≠ "IndexOf")
      (htrim : method.name = "Trim" → args = [])
      (hf : function env method.name = .ok f) :
      IsFunctionCall env e f (receiver.toList ++ args)
  | search {receiver probe : Expr} {method : Method} {rest : List Expr}
      (ty : Ty) (hname : method.name = "IndexOf") :
      IsFunctionCall env (.callOn receiver method (probe :: rest) ty)
        (.builtin .charIndex) (probe :: receiver :: rest)

/-- The operands of a function are those of the call, in some order. -/
theorem IsFunctionCall.perm_children {env : Environment} {e : Expr}
    {f : Criterion.Function} {es : List Expr}
    (h : IsFunctionCall env e f es) : es.Perm e.children := by
  cases h with
  | direct hcall => rw [hcall.children]
  | search ty hname => exact .swap ..

/-- What several expressions compile to comes from them. -/
theorem exists_mem_zip {α : Type} {es : List Expr} {cs : List α}
    (hlength : es.length = cs.length) {c : α} (hc : c ∈ cs) :
    ∃ a ∈ es, (a, c) ∈ es.zip cs := by
  rw [← List.map_snd_zip (Nat.le_of_eq hlength.symm)] at hc
  obtain ⟨⟨a, _⟩, hpair, rfl⟩ := List.mem_map.mp hc
  exact ⟨a, (List.of_mem_zip hpair).1, hpair⟩

/-- What the operands of a function compile to comes from operands of the
call. -/
theorem IsFunctionCall.exists_operand {env : Environment} {e : Expr}
    {f : Criterion.Function} {es : List Expr} {cs : List Criterion}
    (h : IsFunctionCall env e f es) (hlength : es.length = cs.length)
    {c : Criterion} (hc : c ∈ cs) : ∃ a ∈ e.children, (a, c) ∈ es.zip cs := by
  obtain ⟨a, ha, hpair⟩ := exists_mem_zip hlength hc
  exact ⟨a, h.perm_children.mem_iff.mp ha, hpair⟩

/-- A function is the call of a method that makes no aggregate. -/
theorem IsFunctionCall.exists_isCall {env : Environment} {e : Expr}
    {f : Criterion.Function} {es : List Expr}
    (h : IsFunctionCall env e f es) :
    ∃ method receiver args, IsCall method receiver args e
      ∧ method.aggregate? = none := by
  cases h with
  | direct hcall hmethod => exact ⟨_, _, _, hcall, hmethod⟩
  | search ty hname =>
      refine ⟨_, _, _, .callOn _ _ ty, Method.aggregate?_eq_none ?_⟩
      rw [hname]
      rfl

/-- Is the expression of a kind that compiles to its value, if it folds? -/
def asksEvaluator : Expr → Bool
  | .constant .. | .staticMember .. | .construct .. => true
  | .call .. | .callOn .. => true
  | .member object name _ =>
    object.isClosed && (memberFunction? object.type name).isNone
  | .unary .convert operand ty => !isReferenceCast operand.type ty
  | _ => false

/-- The rules of compilation. -/
inductive CompilesTo (env : Environment) :
    Scope → Expr → Criterion → Prop where
  | folded {scope : Scope} {e : Expr} {v : Value}
      (hasks : e.asksEvaluator = true)
      (hfold : e.fold env.evaluator = .ok (some v)) :
      CompilesTo env scope e (.literal v)
  | property {scope : Scope} {p : Param} {path : String} (pty : Ty)
      (name : String) (ty : Ty) (hpath : scope.path? p = some path) :
      CompilesTo env scope (.member (.param p pty) name ty)
        (.property (path ++ name))
  | accessor {scope : Scope} {object : Expr} {name : String}
      {f : Criterion.Builtin} {c : Criterion} (ty : Ty)
      (hf : memberFunction? object.type name = some f)
      (hobject : CompilesTo env scope object c) :
      CompilesTo env scope (.member object name ty) (.builtin f [c])
  | path {scope : Scope} {object : Expr} {name path : String} (ty : Ty)
      (hread : memberFunction? object.type name = none)
      (hopen : object.isClosed = false)
      (hobject : CompilesTo env scope object (.property path)) :
      CompilesTo env scope (.member object name ty)
        (.property (path ++ "." ++ name))
  | projection {scope : Scope} {object : Expr} {name collection : String}
      {expression condition : Option Criterion} (ty : Ty)
      (hread : memberFunction? object.type name = none)
      (hopen : object.isClosed = false)
      (hobject : CompilesTo env scope object
        (.aggregate collection .single expression condition)) :
      CompilesTo env scope (.member object name ty)
        ((Reduction.mk collection .single expression condition).projectMember
          name).toCriterion
  | coalesce {scope : Scope} {left right : Expr} {c d : Criterion} (ty : Ty)
      (hleft : CompilesTo env scope left c)
      (hright : CompilesTo env scope right d) :
      CompilesTo env scope (.binary .coalesce left right ty)
        (.builtin .iif [c.isNull, d, c])
  | binary {scope : Scope} {op : BinaryOp} {target : Criterion.BinaryOp}
      {left right : Expr} {c d : Criterion} (ty : Ty)
      (hop : binaryOperator? op = some target)
      (hleft : CompilesTo env scope left c)
      (hright : CompilesTo env scope right d) :
      CompilesTo env scope (.binary op left right ty) (.binary target c d)
  | not {scope : Scope} {operand : Expr} {c : Criterion} (ty : Ty)
      (hoperand : CompilesTo env scope operand c) :
      CompilesTo env scope (.unary .not operand ty)
        (.unary (if ty.isBool then .not else .bitwiseNot) c)
  | negate {scope : Scope} {operand : Expr} {c : Criterion} (ty : Ty)
      (hoperand : CompilesTo env scope operand c) :
      CompilesTo env scope (.unary .negate operand ty) (.unary .minus c)
  | quote {scope : Scope} {operand : Expr} {c : Criterion} (ty : Ty)
      (hoperand : CompilesTo env scope operand c) :
      CompilesTo env scope (.unary .quote operand ty) c
  | referenceCast {scope : Scope} {operand : Expr} {c : Criterion} {ty : Ty}
      (hcast : isReferenceCast operand.type ty = true)
      (hoperand : CompilesTo env scope operand c) :
      CompilesTo env scope (.unary .convert operand ty) c
  | cast {scope : Scope} {operand : Expr} {c : Criterion} {ty : Ty}
      {f : Criterion.Builtin}
      (hcast : isReferenceCast operand.type ty = false)
      (hfold : (Expr.unary .convert operand ty).fold env.evaluator = .ok none)
      (hf : castFunction? ty = some f)
      (hoperand : CompilesTo env scope operand c) :
      CompilesTo env scope (.unary .convert operand ty) (.builtin f [c])
  | conditional {scope : Scope} {test yes no : Expr} {c d n : Criterion}
      (ty : Ty) (htest : CompilesTo env scope test c)
      (hyes : CompilesTo env scope yes d)
      (hno : CompilesTo env scope no n) :
      CompilesTo env scope (.conditional test yes no ty)
        (.builtin .iif (c :: d :: branches no n))
  | function {scope : Scope} {e : Expr} {f : Criterion.Function}
      {es : List Expr} {cs : List Criterion}
      (hcall : IsFunctionCall env e f es)
      (hfold : e.fold env.evaluator = .ok none)
      (hlength : es.length = cs.length)
      (hoperands : ∀ {a c}, (a, c) ∈ es.zip cs → CompilesTo env scope a c) :
      CompilesTo env scope e (.function f cs)
  | membership {scope : Scope} {method : Method} {source probe : Expr}
      {p : Criterion} {v : Value} {items : List Value} (ty : Ty)
      (hmethod : method.onSequence = true) (hname : method.name = "Contains")
      (hfold : (Expr.call method [source, probe] ty).fold env.evaluator
        = .ok none)
      (hprobe : CompilesTo env scope probe p)
      (hsource : CompilesTo env scope source (.literal v))
      (hitems : v.elements? = some items) :
      CompilesTo env scope (.call method [source, probe] ty)
        (.within p (items.map .literal))
  | aggregate {scope : Scope} {e source : Expr} {method : Method}
      {receiver : Option Expr} {kind : Criterion.Aggregate}
      {role : LambdaRole} {c : Criterion} {r : Reduction}
      (hcall : IsCall method receiver [source] e)
      (hmethod : method.aggregate? = some (kind, role))
      (hfold : e.fold env.evaluator = .ok none)
      (hsource : CompilesTo env scope source c)
      (hr : Reduction.ofCriterion? c = some r) :
      CompilesTo env scope e (nextStep kind role none r)
  | aggregateBy {scope : Scope} {e source selector : Expr} {rest : List Expr}
      {method : Method} {receiver : Option Expr}
      {kind : Criterion.Aggregate} {role : LambdaRole} {c l : Criterion}
      {r : Reduction}
      (hcall : IsCall method receiver (source :: selector :: rest) e)
      (hmethod : method.aggregate? = some (kind, role))
      (hfold : e.fold env.evaluator = .ok none)
      (hsource : CompilesTo env scope source c)
      (hr : Reduction.ofCriterion? c = some r)
      (hselector : CompilesTo env scope selector l) :
      CompilesTo env scope e (nextStep kind role (some l) r)
  | newArray {scope : Scope} {es : List Expr} {vs : List Value} (ty : Ty)
      (hlength : es.length = vs.length)
      (helements : ∀ {a v}, (a, v) ∈ es.zip vs →
        CompilesTo env scope a (.literal v)) :
      CompilesTo env scope (.newArray es ty) (.literal (.array vs))
  | lambda {scope : Scope} {p : Param} {body : Expr} {c : Criterion}
      (ty : Ty) (hbody : CompilesTo env (scope.enter p) body c) :
      CompilesTo env scope (.lambda [p] body ty) c

variable {env : Environment} {scope : Scope} {e : Expr} {method : Method}
  {receiver : Option Expr} {args : List Expr}

-- ============================================================ both ways

/-- Pairs of operands and criteria that compile are derived. -/
theorem zip_derived {es : List Expr} {cs : List Criterion}
    (ih : ∀ a ∈ es, ∀ c, a.compileIn env scope = .ok c →
      CompilesTo env scope a c)
    (h : List.Forall₂ (fun a c => a.compileIn env scope = .ok c) es cs) :
    es.length = cs.length
      ∧ ∀ {a c}, (a, c) ∈ es.zip cs → CompilesTo env scope a c := by
  obtain ⟨hlength, h⟩ := List.forall₂_iff_zip.mp h
  exact ⟨hlength, fun hmem => ih _ (List.of_mem_zip hmem).1 _ (h hmem)⟩

/-- A call that compiles is derived if its operands are. -/
theorem compilesTo_of_isCall (hcall : IsCall method receiver args e)
    (ih : ∀ a ∈ e.children, ∀ c, a.compileIn env scope = .ok c →
      CompilesTo env scope a c)
    {d : Criterion} (h : e.compileIn env scope = .ok d) :
    CompilesTo env scope e d := by
  -- a constant call is its value, whatever its method is
  rcases fold_of_compileIn_isCall hcall h with ⟨v, hv, rfl⟩ | hfold
  · exact .folded (by cases hcall <;> rfl) hv
  rw [hcall.children] at ih
  rw [compileIn_of_isCall hcall hfold] at h
  -- a function, on a sequence or not
  have hfunction : method.aggregate? = none →
      (method.onSequence = true → method.name = "Contains" →
        receiver.isSome = true) →
      functionCall env e method.name (receiver.map (compileIn env scope))
        (compileEach env scope args) = .ok d →
      CompilesTo env scope e d := by
    intro hmethod hcontains h
    rcases functionCall_eq_ok.mp h with
      ⟨hindex, htrim, f, cs, hf, rfl, hcs⟩
      | ⟨hindex, r, probe, rest, cs, rfl, rfl, rfl, hcs⟩
    · obtain ⟨hlength, hzip⟩ := zip_derived ih hcs
      exact .function (.direct hcall hmethod hcontains hindex htrim hf) hfold
        hlength hzip
    · -- a search has its operands in another order than the call
      have hperm : ∀ a ∈ probe :: r :: rest, a ∈ r :: probe :: rest :=
        fun a ha => (List.Perm.swap ..).mem_iff.mp ha
      obtain ⟨hlength, hzip⟩ := zip_derived (fun a ha => ih a (hperm a ha)) hcs
      cases hcall with
      | callOn _ _ ty => exact .function (.search ty hindex) hfold hlength hzip
  split at h
  · next hsequence =>
    unfold sequenceCall at h
    split at h
    · next hcontains =>
      -- with a receiver, `Contains` would be about a text
      cases receiver with
      | some r => simp at hcontains
      | none =>
          obtain ⟨source, probe, p, v, items, rfl, hp, hsource, hitems, rfl⟩ :=
            membershipCall_eq_ok.mp h
          cases hcall with
          | call _ ty =>
              exact .membership ty hsequence hcontains.1 hfold
                (ih probe (by simp) p hp) (ih source (by simp) _ hsource) hitems
    · next hcontains =>
      split at h
      · next kind role hmethod =>
        have haggregate : method.aggregate? = some (kind, role) := by
          unfold Method.aggregate?
          rw [if_pos hsequence, hmethod]
        obtain ⟨source, c, r, hc, hr, hargs⟩ := aggregateCall_eq_ok.mp h
        rcases hargs with ⟨rfl, rfl⟩ | ⟨selector, rest, l, rfl, hl, rfl⟩
        · exact .aggregate hcall haggregate hfold (ih source (by simp) c hc) hr
        · exact .aggregateBy hcall haggregate hfold
            (ih source (by simp) c hc) hr (ih selector (by simp) l hl)
      · next hmethod =>
        refine hfunction ?_ (fun _ hname => ?_) h
        · unfold Method.aggregate?
          rw [if_pos hsequence, hmethod]
        · cases receiver with
          | none => exact absurd ⟨hname, rfl⟩ hcontains
          | some r => rfl
  · next hscalar =>
    refine hfunction ?_ (fun hsequence => absurd hsequence hscalar) h
    unfold Method.aggregate?
    rw [if_neg hscalar]

/-- The member of an object that compiles is derived if the object is. -/
theorem compilesTo_of_member {object : Expr} {name : String} {ty : Ty}
    (ih : ∀ c, object.compileIn env scope = .ok c →
      CompilesTo env scope object c)
    {d : Criterion}
    (h : (Expr.member object name ty).compileIn env scope = .ok d) :
    CompilesTo env scope (.member object name ty) d := by
  by_cases hparam : ∃ p pty, object = .param p pty
  · obtain ⟨p, pty, rfl⟩ := hparam
    change paramMember scope p name = _ at h
    unfold paramMember at h
    split at h
    · next path hpath =>
      cases h
      exact .property pty name ty hpath
    · cases h
  unfold compileIn at h
  cases hf : memberFunction? object.type name with
  | some f =>
      rw [member_of_function hparam hf] at h
      obtain ⟨c, hc, h⟩ := bind_eq_ok.mp h
      cases h
      exact .accessor ty hf (ih c hc)
  | none =>
      rw [member_of_read hparam hf] at h
      split at h
      · next hclosed =>
        rcases foldedOr_eq_ok.mp h with ⟨v, hv, rfl⟩ | ⟨-, h⟩
        · exact .folded (by simp [asksEvaluator, hclosed, hf]) hv
        · cases h
      · next hopen =>
        have hopen : object.isClosed = false := by simpa using hopen
        obtain ⟨c, hc, h⟩ := bind_eq_ok.mp h
        unfold memberOf at h
        split at h
        · next path =>
          cases h
          exact .path ty hf hopen (ih _ hc)
        · next collection expression condition =>
          cases h
          exact .projection ty hf hopen (ih _ hc)
        · cases h

/-- An operator with two operands is derived if they are. Where it asks for
the first one that is not null, the rule is another one, for that is a
choice. -/
theorem compilesTo_of_binary {op : BinaryOp} {left right : Expr} {ty : Ty}
    (ihleft : ∀ c, left.compileIn env scope = .ok c →
      CompilesTo env scope left c)
    (ihright : ∀ c, right.compileIn env scope = .ok c →
      CompilesTo env scope right c)
    {d : Criterion}
    (h : (Expr.binary op left right ty).compileIn env scope = .ok d) :
    CompilesTo env scope (.binary op left right ty) d := by
  unfold compileIn Compile.binary at h
  split at h
  · next hop =>
    subst hop
    obtain ⟨c, hc, h⟩ := bind_eq_ok.mp h
    obtain ⟨c', hc', h⟩ := bind_eq_ok.mp h
    cases h
    exact .coalesce ty (ihleft c hc) (ihright c' hc')
  · split at h
    · next target htarget =>
      obtain ⟨c, hc, h⟩ := bind_eq_ok.mp h
      obtain ⟨c', hc', h⟩ := bind_eq_ok.mp h
      cases h
      exact .binary ty htarget (ihleft c hc) (ihright c' hc')
    · cases h

/-- An operator on one operand is derived if the operand is; a cast may be
folded, left out or made a function. -/
theorem compilesTo_of_unary {op : UnaryOp} {operand : Expr} {ty : Ty}
    (ih : ∀ c, operand.compileIn env scope = .ok c →
      CompilesTo env scope operand c)
    {d : Criterion}
    (h : (Expr.unary op operand ty).compileIn env scope = .ok d) :
    CompilesTo env scope (.unary op operand ty) d := by
  cases op with
  | not =>
      obtain ⟨c, hc, h⟩ := bind_eq_ok.mp h
      cases h
      exact .not ty (ih c hc)
  | negate =>
      obtain ⟨c, hc, h⟩ := bind_eq_ok.mp h
      cases h
      exact .negate ty (ih c hc)
  | quote => exact .quote ty (ih d h)
  | convert =>
      change Compile.cast env _ operand.type ty _ = _ at h
      unfold Compile.cast at h
      split at h
      · next hcast => exact .referenceCast hcast (ih d h)
      · next hcast =>
        have hcast : isReferenceCast operand.type ty = false := by
          simpa using hcast
        rcases foldedOr_eq_ok.mp h with ⟨v, hv, rfl⟩ | ⟨hfold, h⟩
        · exact .folded (by simp [asksEvaluator, hcast]) hv
        · split at h
          · next f hf =>
            obtain ⟨c, hc, h⟩ := bind_eq_ok.mp h
            cases h
            exact .cast hcast hfold hf (ih c hc)
          · cases h
  | unaryPlus | arrayLength | typeAs => cases h

/-- What compiles is derived, by induction over its operands. -/
theorem compilesTo_of_compileIn {e : Expr} {scope : Scope} {d : Criterion}
    (h : e.compileIn env scope = .ok d) : CompilesTo env scope e d := by
  induction e using induction_children generalizing scope d with
  | step e ih =>
      have hoperand : ∀ a ∈ e.children, ∀ c,
          a.compileIn env scope = .ok c → CompilesTo env scope a c :=
        fun a ha c hc => ih a ha hc
      cases e with
      | param p ty => cases h
      | constant v ty =>
          cases h
          exact .folded rfl rfl
      | staticMember owner name ty =>
          rcases foldedOr_eq_ok.mp h with ⟨v, hv, rfl⟩ | ⟨-, h⟩
          · exact .folded rfl hv
          · cases h
      | member object name ty =>
          exact compilesTo_of_member
            (hoperand object (List.mem_singleton_self _)) h
      | binary op left right ty =>
          exact compilesTo_of_binary (hoperand left (by simp [children]))
            (hoperand right (by simp [children])) h
      | unary op operand ty =>
          exact compilesTo_of_unary
            (hoperand operand (List.mem_singleton_self _)) h
      | call method args ty =>
          exact compilesTo_of_isCall (.call args ty) hoperand h
      | callOn receiver method args ty =>
          exact compilesTo_of_isCall (.callOn receiver args ty) hoperand h
      | conditional test yes no ty =>
          obtain ⟨c, hc, h⟩ := bind_eq_ok.mp h
          obtain ⟨c', hc', h⟩ := bind_eq_ok.mp h
          obtain ⟨n, hn, h⟩ := bind_eq_ok.mp h
          cases h
          exact .conditional ty (ih test (by simp [children]) hc)
            (ih yes (by simp [children]) hc') (ih no (by simp [children]) hn)
      | construct args ty =>
          rcases foldedOr_eq_ok.mp h with ⟨v, hv, rfl⟩ | ⟨-, h⟩
          · exact .folded rfl hv
          · cases h
      | newArray elements ty =>
          obtain ⟨vs, hvs, h⟩ := bind_eq_ok.mp h
          cases h
          obtain ⟨hlength, hzip⟩ := List.forall₂_iff_zip.mp
            (elementValues_compileEach.mp hvs)
          exact .newArray ty hlength fun hmem =>
            ih _ (List.of_mem_zip hmem).1 (hzip hmem)
      | lambda params body ty =>
          rcases params with _ | ⟨p, _ | ⟨q, rest⟩⟩
          · cases h
          · exact .lambda ty (ih body (List.mem_singleton_self _) h)
          · cases h
      | other name operands ty => cases h

/-- An expression that asks the evaluator compiles to its value. -/
theorem compileIn_of_asksEvaluator {e : Expr} {v : Value}
    (hasks : e.asksEvaluator = true)
    (hfold : e.fold env.evaluator = .ok (some v)) :
    e.compileIn env scope = .ok (.literal v) := by
  cases e with
  | constant w ty =>
      cases hfold
      rfl
  | staticMember | construct | call | callOn =>
      exact foldedOr_of_some _ hfold
  | member object name ty =>
      simp only [asksEvaluator, Bool.and_eq_true, Option.isNone_iff_eq_none]
        at hasks
      have hparam : ¬ ∃ p pty, object = .param p pty := by
        rintro ⟨p, pty, rfl⟩
        cases hasks.1
      unfold compileIn
      rw [member_of_read hparam hasks.2, if_pos hasks.1]
      exact foldedOr_of_some _ hfold
  | unary op operand ty =>
      cases op with
      | convert =>
          simp only [asksEvaluator, Bool.not_eq_true'] at hasks
          change Compile.cast env _ operand.type ty _ = _
          unfold Compile.cast
          rw [if_neg (by simp [hasks])]
          exact foldedOr_of_some _ hfold
      | _ => cases hasks
  | param | binary | conditional | newArray | lambda | other => cases hasks

/-- What compiles is no parameter alone, so a member of it is no property. -/
theorem not_param_of_compileIn {e : Expr} {c : Criterion}
    (h : e.compileIn env scope = .ok c) : ¬ ∃ p ty, e = .param p ty := by
  rintro ⟨p, ty, rfl⟩
  cases h

/-- The call of a function compiles if its operands do. -/
theorem compileIn_of_isFunctionCall {f : Criterion.Function}
    {es : List Expr} {cs : List Criterion} (hcall : IsFunctionCall env e f es)
    (hfold : e.fold env.evaluator = .ok none)
    (h : List.Forall₂ (fun a c => a.compileIn env scope = .ok c) es cs) :
    e.compileIn env scope = .ok (.function f cs) := by
  cases hcall with
  | direct hcall hmethod hcontains hindex htrim hf =>
      next method receiver args =>
      have hcompile := (functionCall_eq_ok (e := e)).mpr
        (Or.inl ⟨hindex, htrim, f, cs, hf, rfl, h⟩)
      rw [compileIn_of_isCall hcall hfold]
      unfold Method.aggregate? at hmethod
      split
      · next hsequence =>
        rw [if_pos hsequence] at hmethod
        unfold sequenceCall
        rw [if_neg, hmethod]
        · exact hcompile
        · rintro ⟨hname, hnone⟩
          have hsome := hcontains hsequence hname
          cases receiver with
          | none => cases hsome
          | some r => cases hnone
      · exact hcompile
  | search ty hname =>
      next receiver probe method rest =>
      have hcompile := (functionCall_eq_ok
          (e := .callOn receiver method (probe :: rest) ty)).mpr
        (Or.inr ⟨hname, receiver, probe, rest, cs, rfl, rfl, rfl, h⟩)
      rw [compileIn_of_isCall (.callOn receiver _ ty) hfold]
      split
      · unfold sequenceCall
        rw [hname] at hcompile ⊢
        exact hcompile
      · exact hcompile

/-- What is derived compiles, rule by rule. -/
theorem CompilesTo.compileIn {e : Expr} {scope : Scope} {d : Criterion}
    (h : CompilesTo env scope e d) : e.compileIn env scope = .ok d := by
  induction h with
  | folded hasks hfold => exact compileIn_of_asksEvaluator hasks hfold
  | property pty name ty hpath =>
      change paramMember _ _ name = _
      unfold paramMember
      rw [hpath]
  | accessor ty hf _ ih =>
      unfold Expr.compileIn
      rw [member_of_function (not_param_of_compileIn ih) hf, ih]
      rfl
  | path ty hread hopen _ ih =>
      unfold Expr.compileIn
      rw [member_of_read (not_param_of_compileIn ih) hread, hopen, ih]
      rfl
  | projection ty hread hopen _ ih =>
      unfold Expr.compileIn
      rw [member_of_read (not_param_of_compileIn ih) hread, hopen, ih]
      rfl
  | coalesce ty _ _ ihleft ihright =>
      unfold Expr.compileIn
      rw [ihleft, ihright]
      rfl
  | @binary _ op target left right c d ty hop _ _ ihleft ihright =>
      have hcoalesce : op ≠ .coalesce := by
        rintro rfl
        cases hop
      unfold Expr.compileIn Compile.binary
      rw [if_neg hcoalesce, hop, ihleft, ihright]
      rfl
  | not ty _ ih =>
      unfold Expr.compileIn
      rw [ih]
      rfl
  | negate ty _ ih =>
      unfold Expr.compileIn
      rw [ih]
      rfl
  | quote ty _ ih => exact ih
  | referenceCast hcast _ ih =>
      change Compile.cast env _ _ _ _ = _
      unfold Compile.cast
      rw [if_pos hcast, ih]
  | cast hcast hfold hf _ ih =>
      change Compile.cast env _ _ _ _ = _
      unfold Compile.cast
      rw [if_neg (by simp [hcast]), foldedOr_of_none _ hfold, hf, ih]
      rfl
  | conditional ty _ _ _ ihtest ihyes ihno =>
      unfold Expr.compileIn
      rw [ihtest, ihyes, ihno]
      rfl
  | function hcall hfold hlength _ ih =>
      exact compileIn_of_isFunctionCall hcall hfold
        (List.forall₂_iff_zip.mpr ⟨hlength, ih⟩)
  | membership ty hmethod hname hfold _ _ hitems ihprobe ihsource =>
      rw [compileIn_of_isCall (.call _ ty) hfold, if_pos hmethod]
      unfold sequenceCall
      rw [if_pos ⟨hname, rfl⟩]
      exact membershipCall_eq_ok.mpr
        ⟨_, _, _, _, _, rfl, ihprobe, ihsource, hitems, rfl⟩
  | aggregate hcall hmethod hfold _ hr ih =>
      rw [compileIn_of_aggregate? hcall hfold hmethod]
      exact aggregateCall_eq_ok.mpr ⟨_, _, _, ih, hr, Or.inl ⟨rfl, rfl⟩⟩
  | aggregateBy hcall hmethod hfold _ hr _ ihsource ihselector =>
      rw [compileIn_of_aggregate? hcall hfold hmethod]
      exact aggregateCall_eq_ok.mpr ⟨_, _, _, ihsource, hr,
        Or.inr ⟨_, _, _, rfl, ihselector, rfl⟩⟩
  | newArray ty hlength _ ih =>
      exact bind_eq_ok.mpr ⟨_, elementValues_compileEach.mpr
        (List.forall₂_iff_zip.mpr ⟨hlength, ih⟩), rfl⟩
  | lambda ty _ ih => exact ih

/-- Compilation succeeds exactly by the rules. -/
theorem compileIn_eq_ok_iff {e : Expr} {scope : Scope} {d : Criterion} :
    e.compileIn env scope = .ok d ↔ CompilesTo env scope e d :=
  ⟨compilesTo_of_compileIn, CompilesTo.compileIn⟩

end Expr

end FilterCriteria
