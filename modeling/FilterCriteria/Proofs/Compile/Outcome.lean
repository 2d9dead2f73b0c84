/-
Comparisons of what compilations end with. A comparison that holds of equal
results, and of what follows on compared ones, is carried over by every rule
of compilation from the results of the parts to that of the whole: a rule
does nothing with a part but ask for it and go on.

A rule also names expressions in its errors. Two expressions may stand for
each other there if they are the same, or if the comparison does not look at
errors beyond their kinds (`SameBlame`). Such a comparison is that of outcomes
(`SameOutcome`): the same criterion, or errors of one kind. Another one is
exact but for certain errors (`Comparison.sameUnless`).

# One lemma for each rule

Below there is one lemma for each rule of compilation, under the name of the
rule. Each takes two runs of the rule on parts whose results compare, and
says that the results of the runs do. None of them is about expressions: what
an expression hands over to its rule is said in `Compile.Correspondence`. When
a rule changes, its lemma here has to follow, and nothing that is built on it.
-/
import Mathlib.Data.List.Forall2
import FilterCriteria.Proofs.Compile.Rules

namespace FilterCriteria.Compile

-- ========================================================== comparisons

/-- A comparison that goes along with the rules of compilation. -/
structure Comparison where
  Holds {α : Type} (x y : Except CompileError α) : Prop
  refl {α : Type} (x : Except CompileError α) : Holds x x
  bind {α β : Type} {x y : Except CompileError α}
    {f g : α → Except CompileError β} (hxy : Holds x y)
    (hfg : ∀ a, Holds (f a) (g a)) : Holds (x >>= f) (y >>= g)

/-- Both are there and are the same, or there are errors of one kind. -/
inductive SameOutcome {α : Type} :
    Except CompileError α → Except CompileError α → Prop where
  | ok (a : α) : SameOutcome (.ok a) (.ok a)
  | error {x y : CompileError} (hkind : x.kind = y.kind) :
    SameOutcome (.error x) (.error y)

namespace SameOutcome

variable {α β : Type}

theorem refl (x : Except CompileError α) : SameOutcome x x := by
  cases x with
  | error e => exact .error rfl
  | ok a => exact .ok a

/-- A criterion is compared by equality alone. -/
theorem eq_ok {a : α} {x : Except CompileError α}
    (h : SameOutcome (.ok a) x) : x = .ok a := by
  cases h
  rfl

theorem trans {x y z : Except CompileError α} (hxy : SameOutcome x y)
    (hyz : SameOutcome y z) : SameOutcome x z := by
  cases hxy with
  | ok a => exact hyz
  | error hkind =>
      cases hyz with
      | error hkind' => exact .error (hkind.trans hkind')

/-- What follows on results of one outcome has one outcome, if it has for each
value. -/
theorem bind {x y : Except CompileError α}
    {f g : α → Except CompileError β} (hxy : SameOutcome x y)
    (hfg : ∀ a, SameOutcome (f a) (g a)) :
    SameOutcome (x >>= f) (y >>= g) := by
  cases hxy with
  | ok a => exact hfg a
  | error hkind => exact .error hkind

end SameOutcome

namespace Comparison

/-- The comparison of outcomes. -/
def outcomes : Comparison :=
  ⟨SameOutcome, SameOutcome.refl, SameOutcome.bind⟩

/-- The comparison of results that are the same, unless the first one is an
error with an excuse. -/
def sameUnless (Excuse : CompileError → Prop) : Comparison where
  Holds x y := x = y ∨ ∃ error, Excuse error ∧ x = .error error
  refl _ := Or.inl rfl
  bind {α β x y f g} hxy hfg := by
    rcases hxy with rfl | ⟨error, hexcuse, rfl⟩
    · cases x with
      | error error => exact Or.inl rfl
      | ok a => exact hfg a
    · exact Or.inr ⟨error, hexcuse, rfl⟩

variable (K : Comparison)

/-- The comparison does not tell errors of one kind apart. -/
def ByKind : Prop :=
  ∀ {α : Type} {x y : CompileError}, x.kind = y.kind →
    K.Holds (.error x : Except CompileError α) (.error y)

theorem byKind_outcomes : outcomes.ByKind :=
  fun hkind => .error hkind

/-- May errors about the one expression stand for errors about the other? -/
def SameBlame (e d : Expr) : Prop :=
  e = d ∨ K.ByKind

variable {K} {env env' : Environment} {e d : Expr} {r s : Result}
  {rs ss : List Result}

/-- An error about the one expression compares with the same error about the
other. -/
theorem SameBlame.error {α : Type} (h : K.SameBlame e d)
    (blame : Expr → CompileError)
    (hkind : ∀ a b, (blame a).kind = (blame b).kind) :
    K.Holds (.error (blame e) : Except CompileError α) (.error (blame d)) := by
  rcases h with rfl | h
  · exact K.refl _
  · exact h (hkind e d)

/-- What is made of the value alone is made of both. -/
theorem bind_const {α β : Type} {x y : Except CompileError α}
    (hxy : K.Holds x y) (f : α → Except CompileError β) :
    K.Holds (x >>= f) (y >>= f) :=
  K.bind hxy fun a => K.refl (f a)

-- ========================================================= the operands

/-- The operands of a function, from the left to the right. -/
theorem inOrder (h : List.Forall₂ K.Holds rs ss) :
    K.Holds (Compile.inOrder rs) (Compile.inOrder ss) := by
  induction h with
  | nil => exact K.refl _
  | cons hhead _ ih =>
      unfold Compile.inOrder
      exact K.bind hhead fun c => bind_const ih _

theorem optional {r s : Option Result} (h : Option.Rel K.Holds r s) :
    K.Holds (Compile.optional r) (Compile.optional s) := by
  cases h with
  | none => exact K.refl _
  | some h => exact bind_const h fun c => pure (some c)

/-- The first of several results, for a lambda that may be left out. -/
theorem rel_head? (h : List.Forall₂ K.Holds rs ss) :
    Option.Rel K.Holds rs.head? ss.head? := by
  cases h with
  | nil => exact .none
  | cons hhead _ => exact .some hhead

/-- Both are constant, both fail to fold, or both go on with the rule. -/
theorem foldedOr (hblame : K.SameBlame e d)
    (hfold : e.fold env.evaluator = d.fold env'.evaluator)
    (h : K.Holds r s) :
    K.Holds (Compile.foldedOr env e r) (Compile.foldedOr env' d s) := by
  cases he : e.fold env.evaluator with
  | error error =>
      rw [foldedOr_of_error r he, foldedOr_of_error s (hfold ▸ he)]
      exact hblame.error (fun e => .evaluation e.text error) fun _ _ => rfl
  | ok folded =>
      cases folded with
      | none =>
          rw [foldedOr_of_none r he, foldedOr_of_none s (hfold ▸ he)]
          exact h
      | some v =>
          rw [foldedOr_of_some r he, foldedOr_of_some s (hfold ▸ he)]
          exact K.refl _

-- ============================================================= members

/-- Of what the object has become, only a path and a single element have
members. -/
theorem memberOf (hblame : K.SameBlame e d) (name : String)
    (c : Criterion) :
    K.Holds (Compile.memberOf e name c) (Compile.memberOf d name c) := by
  unfold Compile.memberOf
  split
  · exact K.refl _
  · exact K.refl _
  · exact hblame.error .expression fun _ _ => rfl

-- =========================================================== operators

/-- An operator that there is no criterion for is refused without a look at the
operands. -/
theorem binary (op : Expr.BinaryOp) {r' s' : Result}
    (hleft : K.Holds r s) (hright : K.Holds r' s') :
    K.Holds (Compile.binary op r r') (Compile.binary op s s') := by
  unfold Compile.binary
  split
  · exact K.bind hleft fun c => bind_const hright _
  · split
    · exact K.bind hleft fun c => bind_const hright _
    · exact K.refl _

/-- Casts from the one type to the target compare with casts from the other:
the types are the same, or both casts leave the value as it is or none does,
and errors may name either type. -/
def SameSource (K : Comparison) (target source source' : Ty) : Prop :=
  source = source' ∨ K.ByKind
    ∧ isReferenceCast source target = isReferenceCast source' target

/-- A cast leaves no trace, is folded or is a function. Which one it is depends
on the type that it starts from as well, so the two types have to compare. -/
theorem cast {source source' target : Ty}
    (hsource : K.SameSource target source source')
    (hblame : K.SameBlame e d)
    (hfold : e.fold env.evaluator = d.fold env'.evaluator)
    (h : K.Holds r s) :
    K.Holds (Compile.cast env e source target r)
      (Compile.cast env' d source' target s) := by
  have hcast : isReferenceCast source target
      = isReferenceCast source' target := by
    rcases hsource with rfl | ⟨-, hcast⟩
    · rfl
    · exact hcast
  have herror : K.Holds (.error (.conversion source target) : Result)
      (.error (.conversion source' target)) := by
    rcases hsource with rfl | ⟨hkind, -⟩
    · exact K.refl _
    · exact hkind rfl
  unfold Compile.cast
  rw [hcast]
  split
  · exact h
  · refine foldedOr hblame hfold ?_
    split
    · exact bind_const h _
    · exact herror

/-- A quote is passed by, a cast goes by its own rule, and the others ask for
their operand. -/
theorem unary (op : Expr.UnaryOp) {source source' ty : Ty}
    (hsource : op = .convert → K.SameSource ty source source')
    (hblame : K.SameBlame e d)
    (hfold : e.fold env.evaluator = d.fold env'.evaluator)
    (h : K.Holds r s) :
    K.Holds (Compile.unary env e op source ty r)
      (Compile.unary env' d op source' ty s) := by
  cases op with
  | not | negate => exact bind_const h _
  | quote => exact h
  | convert => exact cast (hsource rfl) hblame hfold h
  | unaryPlus | arrayLength | typeAs => exact K.refl _

/-- Conditionals compare if a conditional is in the alternative of both or
of none. -/
theorem conditional {test yes no test' yes' no' : Result}
    (hbranches : ∀ c, branches e c = branches d c)
    (htest : K.Holds test test') (hyes : K.Holds yes yes')
    (hno : K.Holds no no') :
    K.Holds (Compile.conditional e test yes no)
      (Compile.conditional d test' yes' no') := by
  unfold Compile.conditional
  refine K.bind htest fun t => K.bind hyes fun y => K.bind hno fun n => ?_
  rw [hbranches n]
  exact K.refl _

-- =============================================================== calls

variable {receiver receiver' : Option Result} {args args' : List Expr}

/-- A search needs a receiver and an argument, and has them in the other order.
-/
theorem indexOf (hblame : K.SameBlame e d)
    (hreceiver : Option.Rel K.Holds receiver receiver')
    (h : List.Forall₂ K.Holds rs ss) :
    K.Holds (Compile.indexOf e receiver rs)
      (Compile.indexOf d receiver' ss) := by
  cases hreceiver with
  | none => exact hblame.error .expression fun _ _ => rfl
  | some hreceiver =>
      cases h with
      | nil => exact hblame.error .expression fun _ _ => rfl
      | cons hprobe hrest =>
          exact K.bind hprobe fun p => K.bind hreceiver fun r =>
            bind_const (inOrder hrest) _

/-- The registry is only asked for the function of the name. -/
theorem functionCall
    (hfunction : ∀ name, K.Holds (function env name) (function env' name))
    (hblame : K.SameBlame e d) (name : String)
    (hreceiver : Option.Rel K.Holds receiver receiver')
    (h : List.Forall₂ K.Holds rs ss) :
    K.Holds (Compile.functionCall env e name receiver rs)
      (Compile.functionCall env' d name receiver' ss) := by
  have hempty : rs.isEmpty = ss.isEmpty := by cases h <;> rfl
  have hall : List.Forall₂ K.Holds (receiver.toList ++ rs)
      (receiver'.toList ++ ss) := by
    cases hreceiver with
    | none => exact h
    | some hreceiver => exact .cons hreceiver h
  unfold Compile.functionCall
  rw [hempty]
  split
  · exact indexOf hblame hreceiver h
  · split
    · exact K.refl _
    · exact K.bind (hfunction name) fun f => bind_const (inOrder hall) _

theorem membership {source source' : Expr}
    (hblame : K.SameBlame source source') (probe c : Criterion) :
    K.Holds (Compile.membership source probe c)
      (Compile.membership source' probe c) := by
  unfold Compile.membership
  split
  · exact K.refl _
  · exact hblame.error .containsSource fun _ _ => rfl

/-- A test for an element has exactly two arguments; the error of the wrong
number names the call. -/
theorem membershipCall (hblame : K.SameBlame e d)
    (hargs : List.Forall₂ K.SameBlame args args')
    (h : List.Forall₂ K.Holds rs ss) :
    K.Holds (Compile.membershipCall e args rs)
      (Compile.membershipCall d args' ss) := by
  have hother : K.Holds (.error (.expression e) : Result)
      (.error (.expression d)) := hblame.error .expression fun _ _ => rfl
  -- only two arguments, with a result each, make a test
  rcases hargs with _ | ⟨hsource, _ | ⟨_, _ | ⟨_, _⟩⟩⟩
  · exact hother
  · exact hother
  · rcases h with _ | ⟨hr, _ | ⟨hp, _ | ⟨_, _⟩⟩⟩
    · exact hother
    · exact hother
    · exact K.bind hp fun p => K.bind hr fun c => membership hsource p c
    · exact hother
  · exact hother

theorem reduction {source source' : Expr}
    (hblame : K.SameBlame source source') (c : Criterion) :
    K.Holds (Compile.reduction source c) (Compile.reduction source' c) := by
  unfold Compile.reduction
  split
  · exact K.refl _
  · exact hblame.error .notCollection fun _ _ => rfl

/-- An aggregate looks at its first argument, and at the second one if there is
one. -/
theorem aggregateCall (hblame : K.SameBlame e d)
    (kind : Criterion.Aggregate) (role : LambdaRole)
    (hargs : List.Forall₂ K.SameBlame args args')
    (h : List.Forall₂ K.Holds rs ss) :
    K.Holds (Compile.aggregateCall e kind role args rs)
      (Compile.aggregateCall d kind role args' ss) := by
  cases hargs with
  | nil => exact hblame.error .expression fun _ _ => rfl
  | cons hsource _ =>
      cases h with
      | nil => exact hblame.error .expression fun _ _ => rfl
      | cons hcompiled hrest =>
          exact K.bind hcompiled fun c => K.bind (reduction hsource c) fun r =>
            bind_const (optional (rel_head? hrest)) _

theorem sequenceCall
    (hfunction : ∀ name, K.Holds (function env name) (function env' name))
    (hblame : K.SameBlame e d) (name : String)
    (hreceiver : Option.Rel K.Holds receiver receiver')
    (hargs : List.Forall₂ K.SameBlame args args')
    (h : List.Forall₂ K.Holds rs ss) :
    K.Holds (Compile.sequenceCall env e name receiver args rs)
      (Compile.sequenceCall env' d name receiver' args' ss) := by
  have hnone : receiver.isNone = receiver'.isNone := by
    cases hreceiver <;> rfl
  unfold Compile.sequenceCall
  rw [hnone]
  split
  · exact membershipCall hblame hargs h
  · split
    · exact aggregateCall hblame _ _ hargs h
    · exact functionCall hfunction hblame name hreceiver h

/-- A call as a whole: constant, of a method on sequences, or of a function. -/
theorem call
    (hfunction : ∀ name, K.Holds (function env name) (function env' name))
    (hblame : K.SameBlame e d) (method : Method)
    (hfold : e.fold env.evaluator = d.fold env'.evaluator)
    (hreceiver : Option.Rel K.Holds receiver receiver')
    (hargs : List.Forall₂ K.SameBlame args args')
    (h : List.Forall₂ K.Holds rs ss) :
    K.Holds (Compile.call env e method receiver args rs)
      (Compile.call env' d method receiver' args' ss) := by
  unfold Compile.call
  refine foldedOr hblame hfold ?_
  split
  · exact sequenceCall hfunction hblame method.name hreceiver hargs h
  · exact functionCall hfunction hblame method.name hreceiver h

-- =============================================================== arrays

/-- An element that is no literal is blamed, not the array. -/
theorem elementValues (hargs : List.Forall₂ K.SameBlame args args')
    (h : List.Forall₂ K.Holds rs ss) :
    K.Holds (Compile.elementValues args rs)
      (Compile.elementValues args' ss) := by
  induction h generalizing args args' with
  | nil => cases hargs <;> exact K.refl _
  | cons hhead _ ih =>
      cases hargs with
      | nil => exact K.refl _
      | cons hblame hargs =>
          unfold Compile.elementValues
          refine K.bind hhead fun c => ?_
          split
          · exact bind_const (ih hargs) _
          · exact hblame.error .arrayElement fun _ _ => rfl

end Comparison

end FilterCriteria.Compile
