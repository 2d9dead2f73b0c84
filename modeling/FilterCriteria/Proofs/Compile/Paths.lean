/-
The paths of what compiles do not leave the record in question. A path
leaves a collection for every lambda between it and the one whose parameter
it starts at, and an aggregate enters a collection for its expression and
its condition; with the lambdas in their places, as the second arguments of
aggregates, the two go together.

# The invariant

That a path starts with few markers is not enough for an induction: the dot
of a member that is added to it would make a marker out of a `^` at its end.
The invariant (`Scope.LeavesAtMost`) says where the markers end, and that no
`^` follows.

For a criterion it counts the aggregates on the way down to a path
(`Criterion.LeavesAtMost`). A lambda is compiled with one parameter more in
scope and may leave one collection more; where a lambda is allowed, that is
what the aggregate around it enters. So the bound of the induction
(`CompilesTo.leavesAtMost`) is the depth of the scope, less the outermost
parameter, and one more where a lambda is allowed.

The main statement (`leadingMarkers_le_of_compile`): inside so many
aggregates, a path starts with at most as many markers.
-/
import FilterCriteria.Proofs.Compile.Derivation
import FilterCriteria.Proofs.Criterion.Every

namespace FilterCriteria

open Compile

-- ============================================================= markers

namespace Scope

/-- The number of markers that a path starts with. -/
def leadingMarkers : List Char → Nat
  | '^' :: '.' :: rest => leadingMarkers rest + 1
  | _ => 0

/-- A marker more stands at the front. -/
theorem toList_markers_succ (k : Nat) :
    (markers (k + 1)).toList = '^' :: '.' :: (markers k).toList := by
  unfold markers parentMarker
  rw [List.replicate_succ, String.join_cons, String.toList_append]
  rfl

/-- The path leaves so many collections or fewer, and what comes after its
markers does not look like another one. -/
def LeavesAtMost (n : Nat) (path : String) : Prop :=
  ∃ k ≤ n, ∃ rest : List Char,
    path.toList = (markers k).toList ++ rest ∧ rest.head? ≠ some '^'

theorem LeavesAtMost.mono {n m : Nat} {path : String}
    (h : LeavesAtMost n path) (hnm : n ≤ m) : LeavesAtMost m path := by
  obtain ⟨k, hk, rest, hpath⟩ := h
  exact ⟨k, Nat.le_trans hk hnm, rest, hpath⟩

/-- The name of a member leaves nothing. -/
theorem leavesAtMost_name (n : Nat) {name : String}
    (hname : name.toList.head? ≠ some '^') : LeavesAtMost n name :=
  ⟨0, Nat.zero_le n, name.toList, rfl, hname⟩

/-- A member of what is at the end of the path is no further out. -/
theorem LeavesAtMost.member {n : Nat} {path : String}
    (h : LeavesAtMost n path) (name : String) :
    LeavesAtMost n (path ++ "." ++ name) := by
  obtain ⟨k, hk, rest, hpath, hrest⟩ := h
  refine ⟨k, hk, rest ++ '.' :: name.toList, ?_, ?_⟩
  · rw [String.toList_append, String.toList_append, hpath]
    simp
  · cases rest with
    | nil => simp
    | cons c rest => exact hrest

/-- A member of a parameter leaves the collections of the lambdas in between,
and not that of the outermost one. -/
theorem leavesAtMost_of_path? {scope : Scope} {p : Param}
    {path name : String} (hpath : scope.path? p = some path)
    (hname : name.toList.head? ≠ some '^') :
    LeavesAtMost (scope.depth - 1) (path ++ name) := by
  obtain ⟨hops, hhops, rfl⟩ := Option.map_eq_some_iff.mp hpath
  obtain ⟨hlt, -⟩ := List.findIdx?_eq_some_iff_getElem.mp hhops
  exact ⟨hops, Nat.le_sub_one_of_lt hlt, name.toList,
    String.toList_append, hname⟩

/-- The markers of a path are those it is known to start with. -/
theorem LeavesAtMost.leadingMarkers_le {n : Nat} {path : String}
    (h : LeavesAtMost n path) : leadingMarkers path.toList ≤ n := by
  obtain ⟨k, hk, rest, hpath, hrest⟩ := h
  have hnone : leadingMarkers rest = 0 := by
    unfold leadingMarkers
    split
    · exact absurd rfl hrest
    · rfl
  have hcount : ∀ k, leadingMarkers ((markers k).toList ++ rest) = k := by
    intro k
    induction k with
    | zero => exact hnone
    | succ k ih =>
        rw [toList_markers_succ]
        exact congrArg (· + 1) ih
  rw [hpath, hcount k]
  exact hk

end Scope

-- =================================================== paths of criteria

namespace Criterion

/-- The criterion has the path, inside so many aggregates. The path of a
collection is not inside its own aggregate. -/
inductive HasPath (path : String) : Nat → Criterion → Prop where
  | property : HasPath path 0 (.property path)
  | collection (kind : Aggregate) (expression condition : Option Criterion) :
      HasPath path 0 (.aggregate path kind expression condition)
  | expression {depth : Nat} {c : Criterion} (collection : String)
      (kind : Aggregate) (condition : Option Criterion)
      (h : HasPath path depth c) :
      HasPath path (depth + 1)
        (.aggregate collection kind (some c) condition)
  | condition {depth : Nat} {c : Criterion} (collection : String)
      (kind : Aggregate) (expression : Option Criterion)
      (h : HasPath path depth c) :
      HasPath path (depth + 1)
        (.aggregate collection kind expression (some c))
  | operand {depth : Nat} {c d : Criterion} (hd : d.collection? = none)
      (hc : c ∈ d.children) (h : HasPath path depth c) :
      HasPath path depth d

/-- The paths of the criterion leave so many collections or fewer, besides
those of the aggregates that they are inside. -/
def LeavesAtMost (n : Nat) (c : Criterion) : Prop :=
  ∀ ⦃path depth⦄, c.HasPath path depth → Scope.LeavesAtMost (n + depth) path

/-- What leaves so many collections leaves at most more. -/
theorem LeavesAtMost.mono {n m : Nat} {c : Criterion}
    (h : c.LeavesAtMost n) (hnm : n ≤ m) : c.LeavesAtMost m :=
  fun _ _ hpath => (h hpath).mono (Nat.add_le_add_right hnm _)

theorem LeavesAtMost.weaken {n : Nat} {c : Criterion} (m : Nat)
    (h : c.LeavesAtMost n) : c.LeavesAtMost (n + m) :=
  h.mono (Nat.le_add_right n m)

/-- A property is its path. -/
theorem leavesAtMost_property {n : Nat} {path : String} :
    (Criterion.property path).LeavesAtMost n ↔ Scope.LeavesAtMost n path := by
  constructor
  · intro h
    exact h .property
  · intro h p depth hpath
    cases hpath with
    | property => exact h
    | operand _ hc => cases hc

/-- Without a path of its own, a criterion has those of its operands. -/
theorem leavesAtMost_operands {n : Nat} {c : Criterion}
    (hproperty : c.path? = none) (haggregate : c.collection? = none) :
    c.LeavesAtMost n ↔ ∀ d ∈ c.children, d.LeavesAtMost n := by
  constructor
  · intro h d hd path depth hpath
    exact h (.operand haggregate hd hpath)
  · intro h path depth hpath
    cases hpath with
    | property => cases hproperty
    | collection | expression | condition => cases haggregate
    | operand _ hd hpath => exact h _ hd hpath

theorem leavesAtMost_literal (n : Nat) (v : Value) :
    (Criterion.literal v).LeavesAtMost n :=
  (leavesAtMost_operands rfl rfl).mpr nofun

/-- An operator enters no collection, so its operands are where it is. -/
theorem leavesAtMost_binary {n : Nat} {op : BinaryOp}
    {left right : Criterion} :
    (Criterion.binary op left right).LeavesAtMost n
      ↔ left.LeavesAtMost n ∧ right.LeavesAtMost n := by
  rw [leavesAtMost_operands rfl rfl]
  simp [children]

theorem leavesAtMost_unary {n : Nat} {op : UnaryOp} {operand : Criterion} :
    (Criterion.unary op operand).LeavesAtMost n ↔ operand.LeavesAtMost n := by
  rw [leavesAtMost_operands rfl rfl]
  simp [children]

theorem leavesAtMost_function {n : Nat} {f : Function}
    {operands : List Criterion} :
    (Criterion.function f operands).LeavesAtMost n
      ↔ ∀ c ∈ operands, c.LeavesAtMost n :=
  leavesAtMost_operands rfl rfl

/-- The collection of an aggregate is named from outside of it; its expression
and its condition are one collection further in. -/
theorem leavesAtMost_aggregate {n : Nat} {collection : String}
    {kind : Aggregate} {expression condition : Option Criterion} :
    (Criterion.aggregate collection kind expression condition).LeavesAtMost n
      ↔ Scope.LeavesAtMost n collection
        ∧ (∀ c ∈ expression, c.LeavesAtMost (n + 1))
        ∧ ∀ c ∈ condition, c.LeavesAtMost (n + 1) := by
  constructor
  · intro h
    refine ⟨h (.collection ..), fun c hc path depth hpath => ?_,
      fun c hc path depth hpath => ?_⟩
    · cases hc
      rw [Nat.add_assoc, Nat.add_comm 1]
      exact h (.expression _ _ _ hpath)
    · cases hc
      rw [Nat.add_assoc, Nat.add_comm 1]
      exact h (.condition _ _ _ hpath)
  · rintro ⟨hcollection, hexpression, hcondition⟩ path depth hpath
    cases hpath with
    | collection => exact hcollection
    | expression _ _ _ hpath =>
        rw [← Nat.add_assoc, Nat.add_right_comm]
        exact hexpression _ rfl hpath
    | condition _ _ _ hpath =>
        rw [← Nat.add_assoc, Nat.add_right_comm]
        exact hcondition _ rfl hpath
    | operand hd => cases hd

end Criterion

-- ========================================================== aggregates

namespace Reduction

variable {n : Nat} {r : Reduction}

/-- An aggregate that goes on has the paths of what it goes on with. -/
theorem leavesAtMost_ofCriterion? {c : Criterion}
    (hr : ofCriterion? c = some r) (h : c.LeavesAtMost n) :
    r.toCriterion.LeavesAtMost n := by
  cases c with
  | property path =>
      cases hr
      exact Criterion.leavesAtMost_aggregate.mpr
        ⟨Criterion.leavesAtMost_property.mp h, nofun, nofun⟩
  | aggregate =>
      cases hr
      exact h
  | _ => cases hr

/-- A projected member lengthens a path of the expression, or starts one
there. -/
theorem leavesAtMost_projectMember {name : String}
    (h : r.toCriterion.LeavesAtMost n)
    (hname : name.toList.head? ≠ some '^') :
    (r.projectMember name).toCriterion.LeavesAtMost n := by
  obtain ⟨hcollection, hexpression, hcondition⟩ :=
    Criterion.leavesAtMost_aggregate.mp h
  refine Criterion.leavesAtMost_aggregate.mpr
    ⟨hcollection, fun c hc => ?_, hcondition⟩
  cases hc
  rw [Criterion.leavesAtMost_property]
  split
  · next path hpath =>
    have hold := hexpression _ hpath
    rw [Criterion.leavesAtMost_property] at hold
    exact hold.member name
  · exact Scope.leavesAtMost_name _ hname

/-- The lambda of the next step is inside the aggregate, in either role. -/
theorem leavesAtMost_nextStep (kind : Criterion.Aggregate) (role : LambdaRole)
    {lambda : Option Criterion} (h : r.toCriterion.LeavesAtMost n)
    (hlambda : ∀ l ∈ lambda, l.LeavesAtMost (n + 1)) :
    (nextStep kind role lambda r).LeavesAtMost n := by
  obtain ⟨hcollection, -, hcondition⟩ := Criterion.leavesAtMost_aggregate.mp h
  cases role with
  | projection =>
      exact Criterion.leavesAtMost_aggregate.mpr
        ⟨hcollection, hlambda, hcondition⟩
  | condition =>
      refine Criterion.leavesAtMost_aggregate.mpr
        ⟨hcollection, nofun, fun c hc => ?_⟩
      unfold Reduction.filter at hc
      dsimp only [Reduction.project, withKind] at hc
      split at hc
      · next old new hold =>
        cases hc
        exact Criterion.leavesAtMost_binary.mpr
          ⟨hcondition _ hold, hlambda _ rfl⟩
      · next old hold =>
        cases hc
        exact hcondition _ hold
      · exact hlambda c hc

end Reduction

-- ========================================== lambdas and members' names

/-- Where among the arguments of a method a lambda may stand: in the second
place, if the method makes an aggregate. -/
def Method.lambdaPlaces (m : Method) : List Bool :=
  if m.aggregate?.isSome then [false, true] else []

namespace Expr

mutual

/-- Are the lambdas in their places? The expression itself may be a lambda,
quoted or not, if that is allowed where it stands. -/
def lambdasInPlace : (allowed : Bool) → Expr → Bool
  | _, .param .. | _, .constant .. | _, .staticMember .. => true
  | _, .member object _ _ => object.lambdasInPlace false
  | _, .binary _ left right _ =>
    left.lambdasInPlace false && right.lambdasInPlace false
  | allowed, .unary op operand _ =>
    operand.lambdasInPlace (allowed && op == .quote)
  | _, .call method args _ => lambdasInPlaces method.lambdaPlaces args
  | _, .callOn receiver method args _ =>
    receiver.lambdasInPlace false && lambdasInPlaces method.lambdaPlaces args
  | _, .conditional test ifTrue ifFalse _ =>
    test.lambdasInPlace false && ifTrue.lambdasInPlace false
      && ifFalse.lambdasInPlace false
  | _, .construct args _ => lambdasInPlaces [] args
  | _, .newArray elements _ => lambdasInPlaces [] elements
  | allowed, .lambda _ body _ => allowed && body.lambdasInPlace false
  | _, .other _ operands _ => lambdasInPlaces [] operands
termination_by structural _ e => e

/-- Are they in the arguments, of which these may be lambdas themselves? -/
def lambdasInPlaces : (places : List Bool) → List Expr → Bool
  | _, [] => true
  | places, e :: rest =>
    e.lambdasInPlace (places.headD false) && lambdasInPlaces places.tail rest
termination_by structural _ es => es

end

/-- A quotation stands where its operand does. -/
theorem lambdasInPlace_quote {e : Expr} {ty : Ty} {allowed : Bool}
    (h : (Expr.unary .quote e ty).lambdasInPlace allowed = true) :
    e.lambdasInPlace allowed = true := by
  unfold lambdasInPlace at h
  rwa [show (UnaryOp.quote == .quote) = true from rfl, Bool.and_true] at h

theorem lambdasInPlace_unary {op : UnaryOp} {e : Expr} {ty : Ty}
    {allowed : Bool} (hop : op ≠ .quote)
    (h : (Expr.unary op e ty).lambdasInPlace allowed = true) :
    e.lambdasInPlace false = true := by
  unfold lambdasInPlace at h
  rwa [beq_eq_false_iff_ne.mpr hop, Bool.and_false] at h

/-- Where no place is for a lambda, none of the operands is one. -/
theorem lambdasInPlace_of_mem {es : List Expr}
    (h : lambdasInPlaces [] es = true) :
    ∀ e ∈ es, e.lambdasInPlace false = true := by
  induction es with
  | nil => nofun
  | cons e rest ih =>
      unfold lambdasInPlaces at h
      rw [Bool.and_eq_true] at h
      rintro a (_ | ⟨_, ha⟩)
      · exact h.1
      · exact ih h.2 a ha

/-- No member's name in the expression starts like a marker. -/
def NamesUnmarked (e : Expr) : Prop :=
  ∀ object name ty, (Expr.member object name ty).Occurs e →
    name.toList.head? ≠ some '^'

theorem NamesUnmarked.child {c e : Expr} (h : e.NamesUnmarked)
    (hc : c ∈ e.children) : c.NamesUnmarked :=
  fun object name ty hoccurs => h object name ty (.inside hc hoccurs)

theorem namesUnmarked_of_children {e : Expr}
    (hhere : ∀ object name ty, e = .member object name ty →
      name.toList.head? ≠ some '^')
    (hbelow : ∀ c ∈ e.children, c.NamesUnmarked) : e.NamesUnmarked := by
  intro object name ty hoccurs
  rcases occurs_iff.mp hoccurs with rfl | ⟨c, hc, hoccurs⟩
  · exact hhere object name ty rfl
  · exact hbelow c hc object name ty hoccurs

variable {env : Environment} {scope : Scope} {e : Expr} {method : Method}
  {receiver : Option Expr} {args : List Expr}

/-- A lambda is in its place in a call if it is in one of the places that the
method has for it, and no receiver is one. -/
theorem IsCall.lambdasInPlaces (hcall : IsCall method receiver args e)
    {allowed : Bool} (h : e.lambdasInPlace allowed = true) :
    (∀ r ∈ receiver, r.lambdasInPlace false = true)
      ∧ Expr.lambdasInPlaces method.lambdaPlaces args = true := by
  cases hcall with
  | call => exact ⟨nofun, h⟩
  | callOn r =>
      unfold lambdasInPlace at h
      rw [Bool.and_eq_true] at h
      refine ⟨fun a ha => ?_, h.2⟩
      cases ha
      exact h.1

/-- Among the operands of other methods there is no place for a lambda. -/
theorem IsCall.lambdasInPlace_children (hcall : IsCall method receiver args e)
    (hmethod : method.aggregate? = none) {allowed : Bool}
    (h : e.lambdasInPlace allowed = true) :
    ∀ a ∈ e.children, a.lambdasInPlace false = true := by
  obtain ⟨hreceiver, hargs⟩ := hcall.lambdasInPlaces h
  have hplaces : method.lambdaPlaces = [] := by
    unfold Method.lambdaPlaces
    rw [hmethod]
    rfl
  rw [hplaces] at hargs
  rw [hcall.children]
  intro a ha
  rcases List.mem_append.mp ha with ha | ha
  · exact hreceiver a (Option.mem_toList.mp ha)
  · exact lambdasInPlace_of_mem hargs a ha

/-- The two arguments of an aggregate: no lambda, and one if need be. -/
theorem IsCall.lambdasInPlace_aggregate {source : Expr} {rest : List Expr}
    (hcall : IsCall method receiver (source :: rest) e)
    (hmethod : method.aggregate?.isSome = true) {allowed : Bool}
    (h : e.lambdasInPlace allowed = true) :
    source.lambdasInPlace false = true
      ∧ ∀ selector ∈ rest.head?, selector.lambdasInPlace true = true := by
  obtain ⟨-, hargs⟩ := hcall.lambdasInPlaces h
  unfold Method.lambdaPlaces at hargs
  rw [if_pos hmethod] at hargs
  unfold Expr.lambdasInPlaces at hargs
  rw [Bool.and_eq_true] at hargs
  refine ⟨hargs.1, fun selector hselector => ?_⟩
  cases rest with
  | nil => cases hselector
  | cons a rest =>
      cases hselector
      have hrest := hargs.2
      unfold Expr.lambdasInPlaces at hrest
      rw [Bool.and_eq_true] at hrest
      exact hrest.1

-- ============================================================ the paths

/-- The branches of a conditional have the paths of the criterion that they
are taken out of. -/
theorem leavesAtMost_branches {n : Nat} {c : Criterion}
    (h : c.LeavesAtMost n) (alternative : Expr) :
    ∀ d ∈ branches alternative c, d.LeavesAtMost n := by
  intro d hd
  unfold branches at hd
  split at hd
  · exact Criterion.leavesAtMost_function.mp h d hd
  · rw [List.mem_singleton.mp hd]
    exact h

/-- The induction over the rules. Where a lambda is allowed, it may leave one
collection more: the one whose elements it is about. -/
theorem CompilesTo.leavesAtMost {c : Criterion}
    (h : CompilesTo env scope e c) {allowed : Bool}
    (hplaces : e.lambdasInPlace allowed = true) (hnames : e.NamesUnmarked) :
    c.LeavesAtMost (scope.depth - 1 + allowed.toNat) := by
  induction h generalizing allowed with
  | folded => exact Criterion.leavesAtMost_literal _ _
  | property pty name ty hpath =>
      have hname := hnames _ name ty .self
      exact .weaken _ (Criterion.leavesAtMost_property.mpr
        (Scope.leavesAtMost_of_path? hpath hname))
  | accessor ty hf hobject ih =>
      have hc := ih hplaces (hnames.child (by simp [children]))
      exact .weaken _ (Criterion.leavesAtMost_function.mpr (by simpa using hc))
  | path ty hread hopen hobject ih =>
      -- the name goes to the end of a path, where it makes no marker
      have hc := ih hplaces (hnames.child (by simp [children]))
      rw [Criterion.leavesAtMost_property] at hc
      exact .weaken _ (Criterion.leavesAtMost_property.mpr (hc.member _))
  | projection ty hread hopen hobject ih =>
      have hc := ih hplaces (hnames.child (by simp [children]))
      have hname := hnames _ _ ty .self
      exact .weaken _ (Reduction.leavesAtMost_projectMember hc hname)
  | coalesce ty hleft hright ihleft ihright =>
      obtain ⟨hl, hr⟩ := Bool.and_eq_true_iff.mp hplaces
      have hc := ihleft hl (hnames.child (by simp [children]))
      have hd := ihright hr (hnames.child (by simp [children]))
      refine .weaken _ (Criterion.leavesAtMost_function.mpr ?_)
      simpa using ⟨Criterion.leavesAtMost_unary.mpr hc, hd, hc⟩
  | binary ty hop hleft hright ihleft ihright =>
      obtain ⟨hl, hr⟩ := Bool.and_eq_true_iff.mp hplaces
      have hc := ihleft hl (hnames.child (by simp [children]))
      have hd := ihright hr (hnames.child (by simp [children]))
      exact .weaken _ (Criterion.leavesAtMost_binary.mpr ⟨hc, hd⟩)
  | not ty hoperand ih | negate ty hoperand ih =>
      have hc := ih (lambdasInPlace_unary (by decide) hplaces)
        (hnames.child (by simp [children]))
      exact .weaken _ (Criterion.leavesAtMost_unary.mpr hc)
  | quote ty hoperand ih =>
      exact ih (lambdasInPlace_quote hplaces)
        (hnames.child (by simp [children]))
  | referenceCast hcast hoperand ih =>
      have hc := ih (lambdasInPlace_unary (by decide) hplaces)
        (hnames.child (by simp [children]))
      exact .weaken _ hc
  | cast hcast hfold hf hoperand ih =>
      have hc := ih (lambdasInPlace_unary (by decide) hplaces)
        (hnames.child (by simp [children]))
      exact .weaken _ (Criterion.leavesAtMost_function.mpr (by simpa using hc))
  | conditional ty htest hyes hno ihtest ihyes ihno =>
      obtain ⟨hplaces, hn⟩ := Bool.and_eq_true_iff.mp hplaces
      obtain ⟨ht, hy⟩ := Bool.and_eq_true_iff.mp hplaces
      have hc := ihtest ht (hnames.child (by simp [children]))
      have hd := ihyes hy (hnames.child (by simp [children]))
      have hrest := leavesAtMost_branches
        (ihno hn (hnames.child (by simp [children])))
      exact .weaken _ (Criterion.leavesAtMost_function.mpr
        (List.forall_mem_cons.mpr ⟨hc, List.forall_mem_cons.mpr ⟨hd, hrest _⟩⟩))
  | function hcall hfold hlength hoperands ih =>
      obtain ⟨method, receiver, args, hc, hmethod⟩ := hcall.exists_isCall
      refine .weaken _ (Criterion.leavesAtMost_function.mpr fun d hd => ?_)
      obtain ⟨a, ha, hpair⟩ := hcall.exists_operand hlength hd
      exact ih hpair (hc.lambdasInPlace_children hmethod hplaces a ha)
        (hnames.child ha)
  | membership ty hmethod hname hfold hprobe hsource hitems ihprobe ihsource =>
      have haggregate := Method.aggregate?_eq_none (by rw [hname]; rfl)
      have hplace := (IsCall.call _ ty).lambdasInPlace_children haggregate
        hplaces _ (List.mem_cons_of_mem _ (List.mem_singleton_self _))
      have hc := ihprobe hplace (hnames.child (by simp [children]))
      refine .weaken _ ((Criterion.leavesAtMost_operands rfl rfl).mpr
        (List.forall_mem_cons.mpr ⟨hc, fun d hd => ?_⟩))
      obtain ⟨v, -, rfl⟩ := List.mem_map.mp hd
      exact Criterion.leavesAtMost_literal _ v
  | aggregate hcall hmethod hfold hsource hr ih =>
      obtain ⟨hplace, -⟩ := hcall.lambdasInPlace_aggregate
        (by rw [hmethod]; rfl) hplaces
      have hc := ih hplace (hnames.child (by simp [hcall.children]))
      have hold := Reduction.leavesAtMost_ofCriterion? hr hc
      exact .weaken _ (Reduction.leavesAtMost_nextStep _ _ hold (by simp))
  | aggregateBy hcall hmethod hfold hsource hr hselector ihsource ihselector =>
      obtain ⟨hplace, hsecond⟩ := hcall.lambdasInPlace_aggregate
        (by rw [hmethod]; rfl) hplaces
      have hc := ihsource hplace (hnames.child (by simp [hcall.children]))
      have hl := ihselector (hsecond _ rfl)
        (hnames.child (by simp [hcall.children]))
      have hold := Reduction.leavesAtMost_ofCriterion? hr hc
      refine .weaken _ (Reduction.leavesAtMost_nextStep _ _ hold fun l h => ?_)
      cases h
      exact hl
  | newArray ty hlength helements ih => exact Criterion.leavesAtMost_literal _ _
  | lambda ty hbody ih =>
      -- the parameter that comes into scope is the one that is allowed more
      obtain ⟨rfl, hbody⟩ := Bool.and_eq_true_iff.mp hplaces
      have hc := ih hbody (hnames.child (by simp [children]))
      exact hc.mono (Nat.le_add_of_sub_le (Nat.le_refl _))

/-- No path leaves the record in question. With the lambdas inside it in
their places, and no member's name that starts like a marker, what a lambda
compiles to has only paths that start with at most as many markers as there
are aggregates around them. -/
theorem leadingMarkers_le_of_compile (env : Environment) {c : Param}
    {body : Expr} {ty : Ty} {t : Criterion}
    (hplaces : body.lambdasInPlace false = true)
    (hnames : body.NamesUnmarked)
    (h : (Expr.lambda [c] body ty).compile env = .ok t) {path : String}
    {depth : Nat} (hpath : t.HasPath path depth) :
    Scope.leadingMarkers path.toList ≤ depth := by
  have hbody : CompilesTo env (Scope.empty.enter c) body t :=
    compileIn_eq_ok_iff.mp h
  have hleaves := hbody.leavesAtMost hplaces hnames hpath
  rw [show (Scope.empty.enter c).depth - 1 + Bool.toNat false + depth = depth
    from Nat.zero_add depth] at hleaves
  exact hleaves.leadingMarkers_le

/-- The customer, in `overLimit`. -/
def limited : Param := ⟨0, "c", .object "Customer"⟩

/-- `c.Orders.Any(o => o.Total > c.Limit)`. -/
def overLimit : Expr :=
  let o : Param := ⟨1, "o", .object "Order"⟩
  let orders := Expr.member (.ofParam limited) "Orders" (.sequence o.ty)
  let total := Expr.member (.ofParam o) "Total" .int32
  let limit := Expr.member (.ofParam limited) "Limit" .int32
  let exceeds := Expr.binary .greaterThan total limit .bool
  .call (.enumerable "Any") [orders, .lambda [o] exceeds .bool] .bool

/-- The limit is found one collection out, from inside one aggregate. -/
theorem leadingMarkers_overLimit :
    let env : Environment := ⟨.empty, .bare⟩
    overLimit.lambdasInPlace false = true ∧ overLimit.NamesUnmarked
      ∧ ∃ t, (Expr.lambda [limited] overLimit .bool).compile env = .ok t
        ∧ t.HasPath "^.Limit" 1 ∧ Scope.leadingMarkers "^.Limit".toList ≤ 1 := by
  intro env
  have hmember : ∀ (p : Param) (name : String) (ty : Ty),
      name.toList.head? ≠ some '^' →
      (Expr.member (.ofParam p) name ty).NamesUnmarked := by
    intro p name ty hname
    refine namesUnmarked_of_children ?_ ?_
    · rintro _ _ _ ⟨⟩
      exact hname
    · exact List.forall_mem_singleton.mpr (namesUnmarked_of_children nofun nofun)
  have hnames : overLimit.NamesUnmarked := by
    refine namesUnmarked_of_children nofun ?_
    refine List.forall_mem_cons.mpr ⟨hmember _ _ _ (by decide), ?_⟩
    refine List.forall_mem_singleton.mpr (namesUnmarked_of_children nofun ?_)
    refine List.forall_mem_singleton.mpr (namesUnmarked_of_children nofun ?_)
    exact List.forall_mem_cons.mpr ⟨hmember _ _ _ (by decide),
      List.forall_mem_singleton.mpr (hmember _ _ _ (by decide))⟩
  have hcompile : (Expr.lambda [limited] overLimit .bool).compile env = .ok
      (.aggregate "Orders" .any none (some
        (.binary .greater (.property "Total") (.property "^.Limit")))) := rfl
  have hpath : Criterion.HasPath "^.Limit" 1 (.aggregate "Orders" .any none
      (some (.binary .greater (.property "Total") (.property "^.Limit")))) :=
    .condition _ _ _ (.operand rfl (by simp [Criterion.children]) .property)
  exact ⟨rfl, hnames, _, hcompile, hpath,
    leadingMarkers_le_of_compile env rfl hnames hcompile hpath⟩

end Expr

end FilterCriteria
