/-
How calls compile. A call that is constant is its value; any other one goes
by its method, and there are three kinds: the test for an element of a
sequence (`membershipCall_eq_ok`), an aggregate (`aggregateCall_eq_ok`) and
the call of a function (`functionCall_eq_ok`). For each kind it is said, as
an equivalence, what it takes to compile and what comes out.

# Operands in a row

Operands compile from the left to the right, and the first one that fails is
the one that is heard of. `inOrder_compileEach` and
`inOrder_compileEach_eq_error` say so once for both ends, in terms of the
single operands, so that nothing below goes into the loop again. A call with
a receiver and one without share everything but the list of their operands
(`IsCall`), and the statements are about both.
-/
import Mathlib.Data.List.Forall2
import FilterCriteria.Proofs.Compile.Rules
import FilterCriteria.Proofs.Expr.Children

namespace FilterCriteria

open Compile

-- =============================================================== calls

/-- Does the method make an aggregate of a sequence? -/
def Method.aggregate? (m : Method) :
    Option (Criterion.Aggregate × LambdaRole) :=
  if m.onSequence then sequenceMethod? m.name else none

/-- A name that no aggregate has makes none, whether or not the method is one
of sequences. -/
theorem Method.aggregate?_eq_none {m : Method}
    (h : sequenceMethod? m.name = none) : m.aggregate? = none := by
  unfold aggregate?
  rw [h]
  exact ite_self none

namespace Expr

/-- The expression calls the method, on a receiver or on none. -/
inductive IsCall (method : Method) :
    Option Expr → List Expr → Expr → Prop where
  | call (args : List Expr) (ty : Ty) :
    IsCall method none args (.call method args ty)
  | callOn (receiver : Expr) (args : List Expr) (ty : Ty) :
    IsCall method (some receiver) args (.callOn receiver method args ty)

/-- The operands of a call are its receiver, if it has one, and then its
arguments. -/
theorem IsCall.children {method : Method} {receiver : Option Expr}
    {args : List Expr} {e : Expr} (h : IsCall method receiver args e) :
    e.children = receiver.toList ++ args := by
  cases h <;> rfl

-- ============================================================ operands

variable {env : Environment} {scope : Scope}

/-- Operands in a row compile each. -/
theorem inOrder_compileEach {es : List Expr} {cs : List Criterion} :
    inOrder (compileEach env scope es) = .ok cs
      ↔ List.Forall₂ (fun e c => e.compileIn env scope = .ok c) es cs := by
  induction es generalizing cs with
  | nil =>
      rw [List.forall₂_nil_left_iff]
      constructor
      · rintro ⟨⟩
        rfl
      · rintro rfl
        rfl
  | cons e rest ih =>
      unfold compileEach inOrder
      rw [List.forall₂_cons_left_iff, bind_eq_ok]
      constructor
      · rintro ⟨c, hc, h⟩
        obtain ⟨ds, hds, h⟩ := bind_eq_ok.mp h
        cases h
        exact ⟨c, ds, hc, ih.mp hds, rfl⟩
      · rintro ⟨c, ds, hc, hds, rfl⟩
        exact ⟨c, hc, bind_eq_ok.mpr ⟨ds, ih.mpr hds, rfl⟩⟩

/-- The first of several expressions that does not compile fails with the
error. -/
def FirstFails (env : Environment) (scope : Scope) (es : List Expr)
    (error : CompileError) : Prop :=
  ∃ before e after, es = before ++ e :: after
    ∧ (∀ a ∈ before, ∃ c, a.compileIn env scope = .ok c)
    ∧ e.compileIn env scope = .error error

/-- Where there is nothing, nothing fails. -/
theorem not_firstFails_nil {error : CompileError} :
    ¬ FirstFails env scope [] error := by
  rintro ⟨before, e, after, h, -⟩
  simp at h

/-- The first failure is that of the head, or else the head compiles and the
first failure of the rest is meant. -/
theorem firstFails_cons {e : Expr} {rest : List Expr} {error : CompileError} :
    FirstFails env scope (e :: rest) error
      ↔ e.compileIn env scope = .error error
        ∨ ∃ c, e.compileIn env scope = .ok c
          ∧ FirstFails env scope rest error := by
  constructor
  · rintro ⟨before, a, after, h, hbefore, ha⟩
    cases before with
    | nil =>
        cases h
        exact Or.inl ha
    | cons b before =>
        cases h
        obtain ⟨⟨c, hc⟩, hbefore⟩ := List.forall_mem_cons.mp hbefore
        exact Or.inr ⟨c, hc, before, a, after, rfl, hbefore, ha⟩
  · rintro (he | ⟨c, hc, before, a, after, rfl, hbefore, ha⟩)
    · exact ⟨[], e, rest, rfl, nofun, he⟩
    · exact ⟨e :: before, a, after, rfl,
        List.forall_mem_cons.mpr ⟨⟨c, hc⟩, hbefore⟩, ha⟩

/-- Operands in a row fail as the first of them that does. -/
theorem inOrder_compileEach_eq_error {es : List Expr} {error : CompileError} :
    inOrder (compileEach env scope es) = .error error
      ↔ FirstFails env scope es error := by
  induction es with
  | nil => exact iff_of_false (by simp [compileEach, inOrder]) not_firstFails_nil
  | cons e rest ih =>
      unfold compileEach inOrder
      rw [bind_eq_error, firstFails_cons, ← ih]
      refine or_congr_right (exists_congr fun c => and_congr_right fun _ => ?_)
      rw [bind_eq_error]
      exact or_iff_left (by rintro ⟨ds, -, ⟨⟩⟩)

/-- Elements have values if each compiles to a literal. -/
theorem elementValues_compileEach {es : List Expr} {vs : List Value} :
    elementValues es (compileEach env scope es) = .ok vs
      ↔ List.Forall₂ (fun e v => e.compileIn env scope = .ok (.literal v))
          es vs := by
  induction es generalizing vs with
  | nil =>
      rw [List.forall₂_nil_left_iff]
      constructor
      · rintro ⟨⟩
        rfl
      · rintro rfl
        rfl
  | cons e rest ih =>
      unfold compileEach elementValues
      rw [List.forall₂_cons_left_iff, bind_eq_ok]
      constructor
      · rintro ⟨c, hc, h⟩
        cases c with
        | literal v =>
            obtain ⟨ws, hws, h⟩ := bind_eq_ok.mp h
            cases h
            exact ⟨v, ws, hc, ih.mp hws, rfl⟩
        | _ => cases h
      · rintro ⟨v, ws, hv, hws, rfl⟩
        exact ⟨.literal v, hv, bind_eq_ok.mpr ⟨ws, ih.mpr hws, rfl⟩⟩

-- ======================================================= kinds of calls

variable {e : Expr} {method : Method} {receiver : Option Expr}
  {args : List Expr}

/-- A call that is not constant goes by what its method is. -/
theorem compileIn_of_isCall (hcall : IsCall method receiver args e)
    (hfold : e.fold env.evaluator = .ok none) :
    e.compileIn env scope
      = if method.onSequence then
          sequenceCall env e method.name
            (receiver.map (compileIn env scope)) args
            (compileEach env scope args)
        else
          functionCall env e method.name
            (receiver.map (compileIn env scope))
            (compileEach env scope args) := by
  cases hcall <;> exact foldedOr_of_none _ hfold

/-- A call that compiles is constant or is not, but it does not fail to
fold. -/
theorem fold_of_compileIn_isCall (hcall : IsCall method receiver args e)
    {d : Criterion} (h : e.compileIn env scope = .ok d) :
    (∃ v, e.fold env.evaluator = .ok (some v) ∧ d = .literal v)
      ∨ e.fold env.evaluator = .ok none := by
  cases hcall <;> exact (foldedOr_eq_ok.mp h).imp_right And.left

/-- The call of a function compiles if the function is there and its
operands compile. -/
theorem functionCall_eq_ok {name : String} {d : Criterion} :
    functionCall env e name (receiver.map (compileIn env scope))
        (compileEach env scope args) = .ok d
      ↔ (name ≠ "IndexOf" ∧ (name = "Trim" → args = [])
          ∧ ∃ f cs, function env name = .ok f ∧ d = .function f cs
            ∧ List.Forall₂ (fun a c => a.compileIn env scope = .ok c)
                (receiver.toList ++ args) cs)
        ∨ (name = "IndexOf" ∧ ∃ r probe rest cs, receiver = some r
          ∧ args = probe :: rest ∧ d = .function (.builtin .charIndex) cs
          ∧ List.Forall₂ (fun a c => a.compileIn env scope = .ok c)
              (probe :: r :: rest) cs) := by
  have hall : (receiver.map (compileIn env scope)).toList
        ++ compileEach env scope args
      = compileEach env scope (receiver.toList ++ args) := by
    cases receiver <;> rfl
  have hempty : (compileEach env scope args).isEmpty = args.isEmpty := by
    cases args <;> rfl
  unfold functionCall
  -- `IndexOf` takes its operands in another order, and needs two of them
  by_cases hindex : name = "IndexOf"
  · rw [if_pos hindex]
    simp only [hindex, ne_eq, not_true, false_and, true_and, false_or]
    constructor
    · intro h
      match receiver, args with
      | some r, probe :: rest =>
          change indexOf e (some _) (_ :: _) = _ at h
          unfold indexOf at h
          obtain ⟨p, hp, h⟩ := bind_eq_ok.mp h
          obtain ⟨c, hc, h⟩ := bind_eq_ok.mp h
          obtain ⟨cs, hcs, h⟩ := bind_eq_ok.mp h
          cases h
          exact ⟨r, probe, rest, p :: c :: cs, rfl, rfl, rfl,
            .cons hp (.cons hc (inOrder_compileEach.mp hcs))⟩
      | none, _ => cases h
      | some r, [] => cases h
    · rintro ⟨r, probe, rest, cs, rfl, rfl, rfl, hcs⟩
      obtain ⟨p, tail, hp, htail, rfl⟩ := List.forall₂_cons_left_iff.mp hcs
      obtain ⟨c, cs, hc, hrest, rfl⟩ := List.forall₂_cons_left_iff.mp htail
      exact bind_eq_ok.mpr ⟨p, hp, bind_eq_ok.mpr
        ⟨c, hc, bind_eq_ok.mpr ⟨cs, inOrder_compileEach.mpr hrest, rfl⟩⟩⟩
  · rw [if_neg hindex, hall, hempty]
    simp only [hindex, ne_eq, not_false_eq_true, true_and, false_and, or_false]
    -- `Trim` is refused if it is told what to trim, before any operand
    by_cases htrim : name = "Trim" ∧ !args.isEmpty
    · rw [if_pos htrim]
      constructor
      · rintro ⟨⟩
      · rintro ⟨hnil, -⟩
        rw [hnil htrim.1] at htrim
        exact absurd htrim.2 (by decide)
    · rw [if_neg htrim]
      constructor
      · intro h
        obtain ⟨f, hf, h⟩ := bind_eq_ok.mp h
        obtain ⟨cs, hcs, h⟩ := bind_eq_ok.mp h
        cases h
        refine ⟨fun hname => ?_, f, cs, hf, rfl, inOrder_compileEach.mp hcs⟩
        by_contra hargs
        refine htrim ⟨hname, ?_⟩
        simp [hargs]
      · rintro ⟨-, f, cs, hf, rfl, hcs⟩
        exact bind_eq_ok.mpr
          ⟨f, hf, bind_eq_ok.mpr ⟨cs, inOrder_compileEach.mpr hcs, rfl⟩⟩

/-- The test for an element compiles if what is looked in compiles to a
sequence. -/
theorem membershipCall_eq_ok {d : Criterion} :
    membershipCall e args (compileEach env scope args) = .ok d
      ↔ ∃ source probe p v items, args = [source, probe]
        ∧ probe.compileIn env scope = .ok p
        ∧ source.compileIn env scope = .ok (.literal v)
        ∧ v.elements? = some items ∧ d = .within p (items.map .literal) := by
  constructor
  · intro h
    match args with
    | [source, probe] =>
        obtain ⟨p, hp, h⟩ := bind_eq_ok.mp h
        obtain ⟨c, hc, h⟩ := bind_eq_ok.mp h
        unfold membership at h
        split at h
        · next v =>
          split at h
          · next items hitems =>
            cases h
            exact ⟨source, probe, p, v, items, rfl, hp, hc, hitems, rfl⟩
          · cases h
        · cases h
    | [] => cases h
    | [_] => cases h
    | _ :: _ :: _ :: _ => cases h
  · rintro ⟨source, probe, p, v, items, rfl, hp, hsource, hitems, rfl⟩
    refine bind_eq_ok.mpr ⟨p, hp, bind_eq_ok.mpr ⟨_, hsource, ?_⟩⟩
    simp only [membership, hitems]

/-- An aggregate compiles if its first argument is a collection and the
second one, if there is one, compiles; further ones do not matter. -/
theorem aggregateCall_eq_ok {kind : Criterion.Aggregate} {role : LambdaRole}
    {d : Criterion} :
    aggregateCall e kind role args (compileEach env scope args) = .ok d
      ↔ ∃ source c r, source.compileIn env scope = .ok c
        ∧ Reduction.ofCriterion? c = some r
        ∧ (args = [source] ∧ d = nextStep kind role none r
          ∨ ∃ selector rest l, args = source :: selector :: rest
            ∧ selector.compileIn env scope = .ok l
            ∧ d = nextStep kind role (some l) r) := by
  -- the error of a source that is no collection names it, the result does not
  have hreduction : ∀ {source : Expr} {c : Criterion} {r : Reduction},
      Compile.reduction source c = .ok r
        ↔ Reduction.ofCriterion? c = some r := by
    intro source c r
    unfold Compile.reduction
    split
    · next s hs => simp [hs]
    · next hnone => simp [hnone]
  constructor
  · intro h
    match args with
    | [] => cases h
    | [source] =>
        obtain ⟨c, hc, h⟩ := bind_eq_ok.mp h
        obtain ⟨r, hr, h⟩ := bind_eq_ok.mp h
        cases h
        exact ⟨source, c, r, hc, hreduction.mp hr, Or.inl ⟨rfl, rfl⟩⟩
    | source :: selector :: rest =>
        obtain ⟨c, hc, h⟩ := bind_eq_ok.mp h
        obtain ⟨r, hr, h⟩ := bind_eq_ok.mp h
        obtain ⟨_, hsome, h⟩ := bind_eq_ok.mp h
        cases h
        obtain ⟨l, hl, hpure⟩ := bind_eq_ok.mp
          (show selector.compileIn env scope >>= (fun l => pure (some l)) = _
            from hsome)
        cases hpure
        exact ⟨source, c, r, hc, hreduction.mp hr,
          Or.inr ⟨selector, rest, l, rfl, hl, rfl⟩⟩
  · rintro ⟨source, c, r, hc, hr, ⟨rfl, rfl⟩ | ⟨selector, rest, l, rfl, hl, rfl⟩⟩
    · exact bind_eq_ok.mpr ⟨c, hc, bind_eq_ok.mpr ⟨r, hreduction.mpr hr, rfl⟩⟩
    · have hsome : (selector.compileIn env scope).map some = .ok (some l) := by
        rw [hl]
        rfl
      exact bind_eq_ok.mpr ⟨c, hc, bind_eq_ok.mpr
        ⟨r, hreduction.mpr hr, bind_eq_ok.mpr ⟨some l, hsome, rfl⟩⟩⟩

/-- An aggregate method is its aggregate, and no test for an element. -/
theorem compileIn_of_aggregate? {kind : Criterion.Aggregate}
    {role : LambdaRole} (hcall : IsCall method receiver args e)
    (hfold : e.fold env.evaluator = .ok none)
    (hmethod : method.aggregate? = some (kind, role)) :
    e.compileIn env scope
      = aggregateCall e kind role args (compileEach env scope args) := by
  unfold Method.aggregate? at hmethod
  split at hmethod
  · next hsequence =>
    have hcontains : method.name ≠ "Contains" := by
      intro hname
      rw [hname] at hmethod
      cases hmethod
    rw [compileIn_of_isCall hcall hfold, if_pos hsequence]
    unfold sequenceCall
    rw [if_neg fun h => hcontains h.1, hmethod]
  · cases hmethod

end Expr

end FilterCriteria
