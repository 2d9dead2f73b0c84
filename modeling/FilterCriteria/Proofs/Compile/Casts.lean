/-
Casts to record types. Such a cast compiles to what its operand does, and
evaluates to it as well, so one might take it for nothing. But three rules do
not only look at what an operand compiles to, they look at the operand
itself, and may find the cast there (`Frame.castShows`):

- a member of a parameter is a property, and that of a cast parameter is not
  supported;
- an alternative that is a conditional goes on in the list of branches, and a
  cast one does not;
- a cast around the cast goes by the type that it starts from.

# In place and out of place

The main statement (`compileIn_fill_cast`): in every other place a cast to a
record type leaves no trace, at whatever depth, and in these places it does,
unless its operand is constant. For the places where nothing shows, the
expression with the cast and the one without correspond
(`corresponds_fillFrame_cast`), and correspondence goes up through any
surroundings. For the three others there is one lemma each that tells the two
results apart; `compileIn_cast_shows` has an expression for each of them.
-/
import FilterCriteria.Proofs.Compile.Interchange

namespace FilterCriteria

open Compile

-- ============================================================= in place

/-- A cast to a record type leaves every value as it is. -/
theorem Value.convert_object (v : Value) (record : String) :
    v.convert (.object record) = .ok v := by
  cases v <;> rfl

/-- A cast to a record type leaves no trace, whatever it starts from. -/
theorem Compile.isReferenceCast_object (source : Ty) (record : String) :
    isReferenceCast source (.object record) = true :=
  Bool.or_true _

namespace Expr

/-- Does the node tell its operand from the cast of it to a record type? -/
def Frame.castShows (f : Frame) (operand : Expr) (record : String) : Bool :=
  match f with
  | .object .. => operand.param?.isSome
  | .alternative .. => operand.isConditional
  | .unaryOperand .convert ty =>
    isReferenceCast operand.type ty != isReferenceCast (.object record) ty
  | _ => false

variable {env : Environment} {e : Expr} {name record : String}

/-- A cast to a record type compiles to what its operand does. -/
theorem compileIn_cast (env : Environment) (scope : Scope) (e : Expr)
    (record : String) :
    (Expr.unary .convert e (.object record)).compileIn env scope
      = e.compileIn env scope :=
  if_pos (isReferenceCast_object e.type record)

section NoTrace

variable (hconvert : ∀ v record,
  env.evaluator.convert v (.object record) = .ok v)
include hconvert

theorem fold_cast (e : Expr) (record : String) :
    (Expr.unary .convert e (.object record)).fold env.evaluator
      = e.fold env.evaluator := by
  rw [fold_convert]
  simp only [hconvert]
  rcases e.fold env.evaluator with _ | _ | _ <;> rfl

/-- A cast to a record type resembles its operand. -/
theorem resembles_cast (e : Expr) (record : String) :
    Resembles (sameSetting env) e (.unary .convert e (.object record)) where
  blame := Or.inr Comparison.byKind_outcomes
  isClosed_eq := rfl
  fold_eq := (fold_cast hconvert e record).symm
  outcome := by
    rintro s _ rfl
    change SameOutcome (e.compileIn env s)
      ((Expr.unary .convert e (.object record)).compileIn env s)
    rw [compileIn_cast]
    exact .refl _

/-- Where the node does not tell it from its operand, the node with the cast
corresponds to the one without. Members of a record type are no functions,
whichever record it is. -/
theorem corresponds_fillFrame_cast (he : e.type = .object name) {f : Frame}
    (hf : f.castShows e record = false) :
    Corresponds (sameSetting env) (f.fill e)
      (f.fill (.unary .convert e (.object record))) := by
  have hcast := resembles_cast hconvert e record
  -- three places look at the form or the type of what stands in them;
  -- everywhere else a tree that resembles the old one will do
  cases f with
  | object member ty =>
      have hparam : e.param? = none := Option.not_isSome_iff_eq_none.mp (by
        simpa [Frame.castShows] using hf)
      refine hcast.member ?_ ?_ ty
      · rw [hparam]
        exact .none
      · rw [he]
        rfl
  | alternative test ifTrue ty =>
      exact (resembles_same test).conditional (resembles_same ifTrue) hcast
        hf ty
  | unaryOperand op ty =>
      refine hcast.unary fun hop => Or.inr ⟨Comparison.byKind_outcomes, ?_⟩
      change isReferenceCast e.type ty = isReferenceCast (.object record) ty
      rw [hop] at hf
      simpa [Frame.castShows] using hf
  | _ => exact hcast.fillFrame rfl

/-- So it does in every context with such a node around the hole. -/
theorem sameOutcome_fill_cast (he : e.type = .object name) {C : Context}
    (hplace : ∀ f ∈ C.frames.getLast?, f.castShows e record = false)
    (scope : Scope) :
    SameOutcome ((C.fill e).compileIn env scope)
      ((C.fill (.unary .convert e (.object record))).compileIn env scope) := by
  obtain ⟨frames⟩ := C
  rcases frames.eq_nil_or_concat with rfl | ⟨outer, f, rfl⟩
  · exact (resembles_cast hconvert e record).outcome rfl
  · have hfill : ∀ a, Context.fill ⟨outer.concat f⟩ a
        = Context.fill ⟨outer⟩ (f.fill a) := by
      intro a
      simp [Context.fill]
    have hf : f.castShows e record = false := hplace f (by simp)
    rw [hfill, hfill]
    exact ((corresponds_fillFrame_cast hconvert he hf).fill ⟨outer⟩).outcome
      rfl

end NoTrace

-- ========================================================== out of place

/-- A cast parameter is an object without members. -/
theorem compileIn_member_cast_param (scope : Scope) (p : Param) (pty ty : Ty)
    (member : String) :
    (Expr.member (.unary .convert (.param p pty) (.object record)) member
      ty).compileIn env scope = .error (.expression (.param p pty)) := by
  unfold compileIn
  rw [member_of_read (by simp) rfl, if_neg (by simp [isClosed]),
    compileIn_cast]
  rfl

/-- A conditional has more than one branch. -/
theorem exists_branches_of_conditional {test yes no : Expr} {ty : Ty}
    {scope : Scope} {n : Criterion}
    (h : (Expr.conditional test yes no ty).compileIn env scope = .ok n) :
    ∃ c d rest, n = .builtin .iif (c :: d :: rest) := by
  obtain ⟨c, -, h⟩ := bind_eq_ok.mp h
  obtain ⟨d, -, h⟩ := bind_eq_ok.mp h
  obtain ⟨m, -, h⟩ := bind_eq_ok.mp h
  cases h
  exact ⟨c, d, _, rfl⟩

/-- The branches of a cast alternative stay one operand. -/
theorem compileIn_conditional_cast_ne {test yes : Expr} {ty : Ty}
    {scope : Scope} (he : e.isConditional = true) {c : Criterion}
    (h : (Expr.conditional test yes e ty).compileIn env scope = .ok c) :
    (Expr.conditional test yes (.unary .convert e (.object record))
      ty).compileIn env scope ≠ .ok c := by
  obtain ⟨t, ht, h⟩ := bind_eq_ok.mp h
  obtain ⟨y, hy, h⟩ := bind_eq_ok.mp h
  obtain ⟨n, hn, h⟩ := bind_eq_ok.mp h
  have hcast : (Expr.conditional test yes (.unary .convert e (.object record))
      ty).compileIn env scope = .ok (.builtin .iif [t, y, n]) := by
    unfold compileIn Compile.conditional
    rw [ht, hy, compileIn_cast, hn]
    rfl
  obtain ⟨test', yes', no', ty', rfl⟩ := eq_conditional he
  obtain ⟨a, b, rest, rfl⟩ := exists_branches_of_conditional hn
  cases h
  rw [hcast]
  intro heq
  simp [Criterion.builtin, branches] at heq

/-- A cast that leaves the values of a record type as they are is to no type
that has a function for casts. -/
theorem castFunction?_of_isReferenceCast {ty : Ty}
    (h : isReferenceCast (.object record) ty = true) :
    castFunction? ty = none := by
  have hunderlying : ∃ other, ty.underlying = .object other := by
    unfold isReferenceCast at h
    simp only [Bool.or_eq_true, beq_iff_eq] at h
    rcases h with (rfl | h) | h
    · exact ⟨record, rfl⟩
    · exact ⟨record, h.symm⟩
    · cases ty with
      | object other => exact ⟨other, rfl⟩
      | _ => cases h
  obtain ⟨other, hother⟩ := hunderlying
  unfold castFunction?
  rw [hother]

/-- A cast of what is not constant fails if it does not leave the value as it
is and has no function. -/
theorem compileIn_convert_error {a : Expr} {ty : Ty} (scope : Scope)
    (hcast : isReferenceCast a.type ty = false)
    (hfold : a.fold env.evaluator = .ok none)
    (hfunction : castFunction? ty = none) :
    (Expr.unary .convert a ty).compileIn env scope
      = .error (.conversion a.type ty) := by
  have hnone : (Expr.unary .convert a ty).fold env.evaluator = .ok none := by
    rw [fold_convert, hfold]
    rfl
  unfold compileIn Compile.unary Compile.cast
  rw [hcast, foldedOr_of_none _ hnone, hfunction]
  rfl

/-- A cast around the cast goes by another type than without it: one of the
two leaves the value as it is, and the other one fails. -/
theorem compileIn_convert_cast_ne
    (hconvert : ∀ v record,
      env.evaluator.convert v (.object record) = .ok v)
    (he : e.type = .object name) (hfold : e.fold env.evaluator = .ok none)
    {ty : Ty}
    (hne : isReferenceCast e.type ty ≠ isReferenceCast (.object record) ty)
    {scope : Scope} {c : Criterion}
    (h : (Expr.unary .convert e ty).compileIn env scope = .ok c) :
    (Expr.unary .convert (.unary .convert e (.object record)) ty).compileIn
      env scope ≠ .ok c := by
  cases hsource : isReferenceCast e.type ty with
  | true =>
      have htarget : isReferenceCast (.object record) ty = false := by
        simpa [hsource] using hne.symm
      rw [he] at hsource
      have herror := compileIn_convert_error
        (a := .unary .convert e (.object record)) scope htarget
        ((fold_cast hconvert e record).trans hfold)
        (castFunction?_of_isReferenceCast hsource)
      intro hok
      cases herror.symm.trans hok
  | false =>
      have htarget : isReferenceCast (.object record) ty = true := by
        simpa [hsource] using hne.symm
      have herror := compileIn_convert_error scope hsource hfold
        (castFunction?_of_isReferenceCast htarget)
      cases herror.symm.trans h

/-- Where the node tells the cast from its operand, and the operand is not
constant, the criterion does not stay the same. -/
theorem compileIn_fillFrame_cast_ne
    (hconvert : ∀ v record,
      env.evaluator.convert v (.object record) = .ok v)
    (he : e.type = .object name) {f : Frame}
    (hf : f.castShows e record = true)
    (hfold : e.fold env.evaluator = .ok none) {scope : Scope} {c : Criterion}
    (h : (f.fill e).compileIn env scope = .ok c) :
    (f.fill (.unary .convert e (.object record))).compileIn env scope
      ≠ .ok c := by
  cases f with
  | object member ty =>
      obtain ⟨p, hp⟩ := Option.isSome_iff_exists.mp hf
      obtain ⟨pty, rfl⟩ := eq_of_param? hp
      change (Expr.member _ member ty).compileIn env scope ≠ _
      rw [compileIn_member_cast_param]
      simp
  | alternative test yes ty => exact compileIn_conditional_cast_ne hf h
  | unaryOperand op ty =>
      cases op with
      | convert =>
          refine compileIn_convert_cast_ne hconvert he hfold ?_ h
          simpa [Frame.castShows] using hf
      | _ => cases hf
  | _ => cases hf

/-- A cast to a record type leaves no trace, in every context whose innermost
node does not tell it from its operand: with the cast around an operand of a
record type, the expression has the same criterion, or an error of the same
kind. Where the node does tell it, a criterion does not stay the same, unless
the operand is constant. -/
theorem compileIn_fill_cast
    (hconvert : ∀ v record,
      env.evaluator.convert v (.object record) = .ok v)
    (he : e.type = .object name) (record : String) (scope : Scope) :
    (∀ C : Context,
        (∀ f ∈ C.frames.getLast?, f.castShows e record = false) →
        SameOutcome ((C.fill e).compileIn env scope)
          ((C.fill (.unary .convert e (.object record))).compileIn env scope))
      ∧ ∀ (f : Frame) (c : Criterion), f.castShows e record = true →
        e.fold env.evaluator = .ok none →
        (f.fill e).compileIn env scope = .ok c →
        (f.fill (.unary .convert e (.object record))).compileIn env scope
          ≠ .ok c := by
  constructor
  · intro C hplace
    exact sameOutcome_fill_cast hconvert he hplace scope
  · intro f c hf hfold h
    exact compileIn_fillFrame_cast_ne hconvert he hf hfold h

/-- `c => c.Orders.Any(o => ….Name == "Ada")`. -/
def ordersNamed : Context :=
  let c : Param := ⟨0, "c", .object "Client"⟩
  let o : Param := ⟨1, "o", .object "Order"⟩
  let orders := Expr.member (.ofParam c) "Orders" (.sequence o.ty)
  ⟨[.body [c] .bool, .argument (.enumerable "Any") [orders] [] .bool,
    .body [o] .bool, .leftOperand .equal (.ofValue (.string "Ada")) .bool,
    .object "Name" .string]⟩

/-- `o.Buyer`. -/
def orderBuyer : Expr :=
  .member (.ofParam ⟨1, "o", .object "Order"⟩) "Buyer" (.object "Person")

/-- The name of a buyer is found through a cast, since the buyer is a member.
That of the order itself, a parameter, is not. -/
theorem compileIn_ordersNamed_cast :
    let env : Environment := ⟨.empty, Host.evaluator ⟨.minValue, .utc, [], []⟩⟩
    let o : Param := ⟨1, "o", .object "Order"⟩
    let t := Criterion.aggregate "Orders" .any none (some (.binary .equal
      (.property "Buyer.Name") (.literal (.string "Ada"))))
    (∀ v record, env.evaluator.convert v (.object record) = .ok v)
      ∧ (∀ f ∈ ordersNamed.frames.getLast?,
        f.castShows orderBuyer "Party" = false)
      ∧ (ordersNamed.fill orderBuyer).compileIn env .empty = .ok t
      ∧ (ordersNamed.fill (.unary .convert orderBuyer
        (.object "Party"))).compileIn env .empty = .ok t
      ∧ (Expr.member (.ofParam o) "Name" .string).compileIn env ⟨[o]⟩
        = .ok (.property "Name")
      ∧ (Expr.member (.unary .convert (.ofParam o) (.object "Party")) "Name"
        .string).compileIn env ⟨[o]⟩ ≠ .ok (.property "Name") := by
  intro env o t
  have hconvert : ∀ v record,
      env.evaluator.convert v (.object record) = .ok v :=
    Value.convert_object
  have hplace : ∀ f ∈ ordersNamed.frames.getLast?,
      f.castShows orderBuyer "Party" = false := by
    intro f hf
    cases hf
    rfl
  have hbuyer : orderBuyer.type = .object "Person" := rfl
  have horder : (Expr.ofParam o).type = .object "Order" := rfl
  have hcompile : (ordersNamed.fill orderBuyer).compileIn env .empty
      = .ok t := rfl
  have hsame := (compileIn_fill_cast hconvert hbuyer "Party" .empty).1
    ordersNamed hplace
  have hother := (compileIn_fill_cast hconvert horder "Party" ⟨[o]⟩).2
    (.object "Name" .string) (.property "Name") rfl rfl rfl
  rw [hcompile] at hsame
  exact ⟨hconvert, hplace, hcompile, hsame.eq_ok, rfl, hother⟩

/-- The three places where a cast to a record type shows. A cast parameter has
no members; the branches of a cast alternative stay by themselves; and a type
that is made nullable is not another one made nullable. -/
theorem compileIn_cast_shows :
    let env : Environment := ⟨.empty, Host.evaluator ⟨.minValue, .utc, [], []⟩⟩
    let c : Param := ⟨0, "c", .object "Client"⟩
    let home : Ty := .object "Home"
    let part := fun (name : String) (ty : Ty) =>
      Expr.member (.ofParam c) name ty
    let cast := fun (e : Expr) (record : String) =>
      Expr.unary .convert e (.object record)
    let moved := Expr.conditional (part "Moved" .bool) (part "New" home)
      (part "Old" home) home
    let abroad := fun (e : Expr) =>
      Expr.conditional (part "Abroad" .bool) (part "Office" home) e home
    let orNull := fun (e : Expr) => Expr.unary .convert e (.nullable home)
    let compiled := fun (e : Expr) => e.compileIn env ⟨[c]⟩
    compiled (.member (.ofParam c) "Name" .string) = .ok (.property "Name")
      ∧ compiled (.member (cast (.ofParam c) "Client") "Name" .string)
        = .error (.expression (.ofParam c))
      ∧ compiled (abroad moved) = .ok (.builtin .iif [.property "Abroad",
          .property "Office", .property "Moved", .property "New",
          .property "Old"])
      ∧ compiled (abroad (cast moved "Home"))
        = .ok (.builtin .iif [.property "Abroad", .property "Office",
          .builtin .iif [.property "Moved", .property "New",
            .property "Old"]])
      ∧ compiled (orNull (part "Home" home)) = .ok (.property "Home")
      ∧ compiled (orNull (cast (part "Home" home) "Place"))
        = .error (.conversion (.object "Place") (.nullable home)) := by
  exact ⟨rfl, rfl, rfl, rfl, rfl, rfl⟩

end Expr

end FilterCriteria
