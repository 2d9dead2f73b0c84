/-
What compiles is supported, wherever compilation looks. It looks at every
operand, with one exception: of a method that makes an aggregate it looks
at the first two arguments, and neither at further ones nor at a receiver.

# One step and a way down

An operand that is looked at compiles or folds (`Accepted`), or is a parameter
whose member is read (`CompilesTo.operand`). That is one step of a way from
the whole expression down to any place in it. The way is a context, the frames
around the place: `Context.isRegarded` says that each of them looks at its
hole, and `Context.binders` collects the parameters of the lambdas that are
passed. By induction over the frames, what stands at its end is accepted in
the scope that these lambdas make (`Accepted.supports`).

The main statement (`supports_of_compileIn`): where compilation looks, there
is no node of an unknown kind and no parameter but one in scope, with its
member read. Where it does not look there may be anything
(`compileIn_disregarded`).
-/
import FilterCriteria.Proofs.Compile.Derivation
import FilterCriteria.Proofs.Expr.Context

namespace FilterCriteria

open Compile

namespace Expr

-- ===================================================== what is looked at

/-- The operands that compilation looks at. -/
def regarded : Expr → List Expr
  | .call method args _ =>
    if method.aggregate?.isSome then args.take 2 else args
  | .callOn receiver method args _ =>
    if method.aggregate?.isSome then args.take 2 else receiver :: args
  | e => e.children

/-- What is looked at is an operand. -/
theorem regarded_subset (e : Expr) : e.regarded ⊆ e.children := by
  cases e with
  | call method args ty =>
      simp only [regarded, children]
      split
      · exact List.take_subset 2 args
      · exact List.Subset.refl args
  | callOn receiver method args ty =>
      simp only [regarded, children]
      split
      · exact List.Subset.trans (List.take_subset 2 args)
          (List.subset_cons_self ..)
      · exact List.Subset.refl _
  | _ => exact List.Subset.refl _

/-- The scope of the operands of an expression. -/
def innerScope (scope : Scope) : Expr → Scope
  | .lambda [p] _ _ => scope.enter p
  | _ => scope

variable {env : Environment} {scope : Scope} {e : Expr} {method : Method}
  {receiver : Option Expr} {args : List Expr}

theorem IsCall.innerScope (hcall : IsCall method receiver args e) :
    e.innerScope scope = scope := by
  cases hcall <;> rfl

/-- Of an aggregate the first two arguments are looked at. -/
theorem IsCall.regarded_of_aggregate (hcall : IsCall method receiver args e)
    (hmethod : method.aggregate?.isSome = true) :
    e.regarded = args.take 2 := by
  cases hcall <;> exact if_pos hmethod

-- =========================================================== one step in

/-- The expression compiles, or folds into what is around it. -/
inductive Accepted (env : Environment) (scope : Scope) (e : Expr) : Prop where
  | compiled {c : Criterion} (h : CompilesTo env scope e c)
  | folded {v : Value} (h : e.fold env.evaluator = .ok (some v))

theorem not_accepted_other {name : String} {operands : List Expr} {ty : Ty} :
    ¬ Accepted env scope (.other name operands ty) := by
  rintro (h | h)
  · have hok := h.compileIn
    cases hok
  · cases h

/-- A parameter alone neither compiles nor folds. -/
theorem not_accepted_param {p : Param} {ty : Ty} :
    ¬ Accepted env scope (.param p ty) := by
  rintro (h | h)
  · have hok := h.compileIn
    cases hok
  · cases h

/-- An operand that is looked at is accepted in its turn, if it is not a
parameter whose member is read. -/
theorem CompilesTo.operand {c : Criterion} (h : CompilesTo env scope e c)
    {a : Expr} (ha : a ∈ e.regarded) :
    Accepted env (e.innerScope scope) a
      ∨ ∃ p pty name ty, a = .param p pty ∧ e = .member a name ty
        ∧ scope.contains p = true := by
  cases h with
  | folded hasks hfold =>
      -- nothing was compiled here, but what folds has operands that fold
      obtain ⟨w, hw⟩ := fold_of_mem_children hfold a (regarded_subset e ha)
      exact Or.inl (.folded hw)
  | property pty name ty hpath =>
      rw [List.mem_singleton.mp ha]
      refine Or.inr ⟨_, pty, name, ty, rfl, rfl, ?_⟩
      obtain ⟨hops, hhops, -⟩ := Option.map_eq_some_iff.mp hpath
      obtain ⟨hlt, hsame, -⟩ := List.findIdx?_eq_some_iff_getElem.mp hhops
      exact List.any_eq_true.mpr ⟨_, List.getElem_mem hlt, hsame⟩
  | accessor _ _ hobject | path _ _ _ hobject | projection _ _ _ hobject =>
      rw [List.mem_singleton.mp ha]
      exact Or.inl (.compiled hobject)
  | coalesce ty hleft hright | binary ty hop hleft hright =>
      simp only [regarded, children, List.mem_cons, List.not_mem_nil,
        or_false] at ha
      rcases ha with rfl | rfl
      · exact Or.inl (.compiled hleft)
      · exact Or.inl (.compiled hright)
  | not _ hoperand | negate _ hoperand | quote _ hoperand
  | referenceCast _ hoperand | cast _ _ _ hoperand =>
      rw [List.mem_singleton.mp ha]
      exact Or.inl (.compiled hoperand)
  | conditional ty htest hyes hno =>
      simp only [regarded, children, List.mem_cons, List.not_mem_nil,
        or_false] at ha
      rcases ha with rfl | rfl | rfl
      · exact Or.inl (.compiled htest)
      · exact Or.inl (.compiled hyes)
      · exact Or.inl (.compiled hno)
  | function hcall hfold hlength hoperands =>
      obtain ⟨method, receiver, args, hc, -⟩ := hcall.exists_isCall
      have hmem := hcall.perm_children.mem_iff.mpr (regarded_subset e ha)
      rw [← List.map_fst_zip (Nat.le_of_eq hlength)] at hmem
      obtain ⟨⟨_, d⟩, hpair, rfl⟩ := List.mem_map.mp hmem
      rw [hc.innerScope]
      exact Or.inl (.compiled (hoperands hpair))
  | membership ty hmethod hname hfold hprobe hsource hitems =>
      have hmem := regarded_subset _ ha
      simp only [children, List.mem_cons, List.not_mem_nil, or_false] at hmem
      rcases hmem with rfl | rfl
      · exact Or.inl (.compiled hsource)
      · exact Or.inl (.compiled hprobe)
  | aggregate hcall hmethod hfold hsource hr =>
      rw [hcall.regarded_of_aggregate (by rw [hmethod]; rfl)] at ha
      rw [List.mem_singleton.mp ha, hcall.innerScope]
      exact Or.inl (.compiled hsource)
  | aggregateBy hcall hmethod hfold hsource hr hselector =>
      rw [hcall.regarded_of_aggregate (by rw [hmethod]; rfl)] at ha
      rw [hcall.innerScope]
      simp only [List.take_succ_cons, List.take_zero, List.mem_cons,
        List.not_mem_nil, or_false] at ha
      rcases ha with rfl | rfl
      · exact Or.inl (.compiled hsource)
      · exact Or.inl (.compiled hselector)
  | newArray ty hlength helements =>
      have hmem : a ∈ _ := ha
      rw [← List.map_fst_zip (Nat.le_of_eq hlength)] at hmem
      obtain ⟨⟨_, d⟩, hpair, rfl⟩ := List.mem_map.mp hmem
      exact Or.inl (.compiled (helements hpair))
  | lambda ty hbody =>
      rw [List.mem_singleton.mp ha]
      exact Or.inl (.compiled hbody)

/-- The same for what is only folded, as there every operand folds. -/
theorem Accepted.operand (h : Accepted env scope e) {a : Expr}
    (ha : a ∈ e.regarded) :
    Accepted env (e.innerScope scope) a
      ∨ ∃ p pty name ty, a = .param p pty ∧ e = .member a name ty
        ∧ scope.contains p = true := by
  rcases h with h | h
  · exact h.operand ha
  · obtain ⟨w, hw⟩ := fold_of_mem_children h a (regarded_subset e ha)
    exact Or.inl (.folded hw)

-- ============================================================== places

/-- Does compilation look into the hole? -/
def Frame.isRegarded : Frame → Bool
  | .argument method before _ _ | .argumentOn _ method before _ _ =>
    method.aggregate?.isNone || before.length < 2
  | .receiverOf method _ _ => method.aggregate?.isNone
  | _ => true

/-- The parameter that a lambda declares for what is in the hole. A lambda
that declares several declares none. -/
def Frame.binder? : Frame → Option Param
  | .body [p] _ => some p
  | _ => none

theorem mem_take_append {before after : List Expr} {n : Nat} (a : Expr)
    (h : before.length < n) : a ∈ (before ++ a :: after).take n := by
  obtain ⟨k, rfl⟩ := Nat.exists_eq_add_of_lt h
  rw [List.take_append, Nat.add_assoc, Nat.add_sub_cancel_left,
    List.take_succ_cons]
  exact List.mem_append_right _ (List.mem_cons_self ..)

/-- What is put into a place that is looked at is looked at. -/
theorem Frame.mem_regarded_fill {f : Frame} (hf : f.isRegarded = true)
    (a : Expr) : a ∈ (f.fill a).regarded := by
  have hmem := f.mem_children_fill a
  cases f with
  | argument method before after ty | argumentOn receiver method before after ty =>
      simp only [fill, regarded]
      split
      · next hsome =>
        simp only [isRegarded, Bool.or_eq_true, decide_eq_true_eq] at hf
        have hsome := Option.isSome_iff_ne_none.mp hsome
        exact mem_take_append a (hf.resolve_left (by simpa using hsome))
      · exact hmem
  | receiverOf method args ty =>
      have hnone : ¬ method.aggregate?.isSome = true := by
        simpa [isRegarded] using hf
      simp only [fill, regarded, if_neg hnone]
      exact hmem
  | _ => exact hmem

theorem Frame.innerScope_fill (f : Frame) (a : Expr) :
    (f.fill a).innerScope scope = f.binder?.elim scope scope.enter := by
  cases f with
  | body params ty =>
      match params with
      | [] | [_] | _ :: _ :: _ => rfl
  | _ => rfl

/-- Does compilation look into the hole of the context? -/
def Context.isRegarded (C : Context) : Bool :=
  C.frames.all Frame.isRegarded

/-- The parameters of the lambdas around the hole. -/
def Context.binders (C : Context) : List Param :=
  C.frames.filterMap Frame.binder?

/-- The expression is of a known kind, and if it is a parameter, then it is
one in scope whose member is read. -/
structure Context.Supports (C : Context) (scope : Scope) (part : Expr) :
    Prop where
  known : ∀ name operands ty, part ≠ .other name operands ty
  read : ∀ p pty, part = .param p pty →
    ∃ name ty, C.frames.getLast? = some (.object name ty)
  bound : ∀ p pty, part = .param p pty →
    C.binders.any p.same = true ∨ scope.contains p = true

/-- One frame more. -/
theorem Context.Supports.cons {f : Frame} {frames : List Frame} {part : Expr}
    (h : Context.Supports ⟨frames⟩ (f.binder?.elim scope scope.enter) part) :
    Context.Supports ⟨f :: frames⟩ scope part := by
  refine ⟨h.known, fun p pty hpart => ?_, fun p pty hpart => ?_⟩
  · -- an outer frame does not change which frame is innermost
    obtain ⟨name, ty, hlast⟩ := h.read p pty hpart
    refine ⟨name, ty, ?_⟩
    change (f :: frames).getLast? = _
    rw [List.getLast?_cons, hlast]
    rfl
  · have hbound := h.bound p pty hpart
    unfold Context.binders at hbound ⊢
    cases hbinder : f.binder? with
    | none =>
        rw [hbinder] at hbound
        rw [List.filterMap_cons_none hbinder]
        exact hbound
    | some q =>
        rw [hbinder] at hbound
        rw [List.filterMap_cons_some hbinder, List.any_cons, Bool.or_eq_true]
        rcases hbound with hbound | hbound
        · exact Or.inl (Or.inr hbound)
        · change (p.same q || scope.params.any p.same) = true at hbound
          rw [Bool.or_eq_true] at hbound
          exact hbound.imp_left Or.inl

/-- A parameter is no larger expression. -/
theorem Context.eq_nil_of_fill_param {frames : List Frame} {part : Expr}
    {p : Param} {pty : Ty} (h : Context.fill ⟨frames⟩ part = .param p pty) :
    frames = [] := by
  cases frames with
  | nil => rfl
  | cons f frames => cases f <;> cases h

/-- What is accepted is supported at every place that is looked at. -/
theorem Accepted.supports {frames : List Frame} {part : Expr}
    (h : Accepted env scope (Context.fill ⟨frames⟩ part))
    (hframes : ∀ f ∈ frames, f.isRegarded = true) :
    Context.Supports ⟨frames⟩ scope part := by
  induction frames generalizing scope with
  | nil =>
      have hother : ∀ name operands ty, part ≠ .other name operands ty := by
        rintro name operands ty rfl
        exact not_accepted_other h
      have hparam : ∀ p pty, part ≠ .param p pty := by
        rintro p pty rfl
        exact not_accepted_param h
      exact ⟨hother, fun p pty hpart => absurd hpart (hparam p pty),
        fun p pty hpart => absurd hpart (hparam p pty)⟩
  | cons f frames ih =>
      obtain ⟨hf, hframes⟩ := List.forall_mem_cons.mp hframes
      change Accepted env scope (f.fill (Context.fill ⟨frames⟩ part)) at h
      rcases h.operand (Frame.mem_regarded_fill hf _) with
        h | ⟨p, pty, name, ty, hparam, hmember, hbound⟩
      · rw [Frame.innerScope_fill] at h
        exact (ih h hframes).cons
      · -- the hole is that of the member, and the parameter fills it
        obtain rfl := Context.eq_nil_of_fill_param hparam
        change part = .param p pty at hparam
        subst hparam
        have hobject : f = .object name ty := by
          cases f <;> cases hmember
          rfl
        subst hobject
        refine ⟨nofun, fun _ _ _ => ⟨name, ty, rfl⟩, ?_⟩
        rintro _ _ ⟨⟩
        exact Or.inr hbound

/-- Nothing unsupported is accepted where compilation looks. If an
expression compiles, then at every place of it that is not in the receiver
of an aggregate method, nor in an argument of one after the second, there is
no node of an unknown kind, and a parameter only as the object whose member
is read, bound by a lambda with one parameter around it or by the scope. -/
theorem supports_of_compileIn {c : Criterion}
    (h : e.compileIn env scope = .ok c) {C : Context} {part : Expr}
    (hpart : C.fill part = e) (hC : C.isRegarded = true) :
    C.Supports scope part := by
  subst hpart
  exact Accepted.supports (.compiled (compileIn_eq_ok_iff.mp h))
    (List.all_eq_true.mp hC)

/-- The elements of `c.Orders`, in what follows. -/
def counted : Param := ⟨1, "o", .object "Order"⟩

/-- `c => c.Orders.Count(o => ….Paid)`, on a receiver or on none, with
further arguments. -/
def paidOrders (receiver : Option Expr) (further : List Expr) : Context :=
  let c : Param := ⟨0, "c", .object "Customer"⟩
  let orders := Expr.member (.ofParam c) "Orders" (.sequence counted.ty)
  ⟨[.body [c] .int32,
    match receiver with
    | none => .argument (.enumerable "Count") [orders] further .int32
    | some r => .argumentOn r (.enumerable "Count") [orders] further .int32,
    .body [counted] .bool, .object "Paid" .bool]⟩

/-- The parameter of the inner lambda, read inside it. -/
theorem supports_paidOrders :
    (∃ c, ((paidOrders none []).fill (.ofParam counted)).compileIn
        ⟨.empty, .bare⟩ .empty = .ok c)
      ∧ (paidOrders none []).isRegarded = true
      ∧ (paidOrders none []).Supports .empty (.ofParam counted) := by
  obtain ⟨c, hc⟩ : ∃ c, ((paidOrders none []).fill (.ofParam counted)).compileIn
      ⟨.empty, .bare⟩ .empty = .ok c := ⟨_, rfl⟩
  exact ⟨⟨c, hc⟩, rfl, supports_of_compileIn hc rfl rfl⟩

/-- A third argument of an unknown kind, or a receiver of one, goes
unnoticed. -/
theorem compileIn_disregarded :
    let block : Expr := .other "Block" [] .int32
    let third := (paidOrders none [block]).fill (.ofParam counted)
    let receiver := (paidOrders (some block) []).fill (.ofParam counted)
    block.Occurs third ∧ (∃ c, third.compileIn ⟨.empty, .bare⟩ .empty = .ok c)
      ∧ block.Occurs receiver
      ∧ ∃ c, receiver.compileIn ⟨.empty, .bare⟩ .empty = .ok c := by
  intro block third receiver
  have hthird : block.Occurs third :=
    .inside (.head _) (.inside (.tail _ (.tail _ (.head _))) .self)
  have hreceiver : block.Occurs receiver :=
    .inside (.head _) (.inside (.head _) .self)
  exact ⟨hthird, ⟨_, rfl⟩, hreceiver, ⟨_, rfl⟩⟩

end Expr

end FilterCriteria
