/-
Names of parameters do not matter, and neither do their numbers as long as
different ones stay different. A renaming goes by a map of the numbers,
everywhere in an expression and in the scope around it; the name at each
occurrence may become any other.

Compilation asks one thing about a parameter, how many lambdas further out it
is declared, and finds it by its number. An injective map keeps which
parameters are the same (`Param.same_renamedTo`), so it keeps the answer
(`Scope.path?_renamedTo`), also where lambdas declare one number twice.
The two compilations then correspond, node by node. Their errors need not be
equal, for they may name parameters, but are of one kind.

The main statement (`compileIn_renamedTo`): under an injective map, an
expression and what it is renamed to have the same outcome.
-/
import Mathlib.Logic.Equiv.Basic
import FilterCriteria.Proofs.Compile.Correspondence

namespace FilterCriteria

open Compile

-- =========================================================== renamings

/-- The other parameter has the number that the map says. Its name may be
any, and so may the type that it was declared with. -/
def Param.RenamedTo (f : Nat → Nat) (p q : Param) : Prop :=
  q.id = f p.id

/-- Every parameter in scope is renamed. -/
def Scope.RenamedTo (f : Nat → Nat) (s t : Scope) : Prop :=
  List.Forall₂ (Param.RenamedTo f) s.params t.params

/-- The expressions are the same tree but for the parameters, those of
lambdas and those that are read, and each of these is renamed. -/
inductive Expr.RenamedTo (f : Nat → Nat) : Expr → Expr → Prop where
  | param {p q : Param} (h : p.RenamedTo f q) (ty : Ty) :
      RenamedTo f (.param p ty) (.param q ty)
  | constant (v : Value) (ty : Ty) :
      RenamedTo f (.constant v ty) (.constant v ty)
  | staticMember (owner name : String) (ty : Ty) :
      RenamedTo f (.staticMember owner name ty) (.staticMember owner name ty)
  | member {a b : Expr} (h : RenamedTo f a b) (name : String) (ty : Ty) :
      RenamedTo f (.member a name ty) (.member b name ty)
  | binary {a b c d : Expr} (op : Expr.BinaryOp) (hleft : RenamedTo f a b)
      (hright : RenamedTo f c d) (ty : Ty) :
      RenamedTo f (.binary op a c ty) (.binary op b d ty)
  | unary {a b : Expr} (op : Expr.UnaryOp) (h : RenamedTo f a b) (ty : Ty) :
      RenamedTo f (.unary op a ty) (.unary op b ty)
  | call {as bs : List Expr} (method : Method)
      (hlength : as.length = bs.length)
      (hargs : ∀ {a b}, (a, b) ∈ as.zip bs → RenamedTo f a b) (ty : Ty) :
      RenamedTo f (.call method as ty) (.call method bs ty)
  | callOn {a b : Expr} {as bs : List Expr} (hreceiver : RenamedTo f a b)
      (method : Method) (hlength : as.length = bs.length)
      (hargs : ∀ {a b}, (a, b) ∈ as.zip bs → RenamedTo f a b) (ty : Ty) :
      RenamedTo f (.callOn a method as ty) (.callOn b method bs ty)
  | conditional {a b c d c' d' : Expr} (htest : RenamedTo f a b)
      (hyes : RenamedTo f c d) (hno : RenamedTo f c' d') (ty : Ty) :
      RenamedTo f (.conditional a c c' ty) (.conditional b d d' ty)
  | construct {as bs : List Expr} (hlength : as.length = bs.length)
      (hargs : ∀ {a b}, (a, b) ∈ as.zip bs → RenamedTo f a b) (ty : Ty) :
      RenamedTo f (.construct as ty) (.construct bs ty)
  | newArray {as bs : List Expr} (hlength : as.length = bs.length)
      (helements : ∀ {a b}, (a, b) ∈ as.zip bs → RenamedTo f a b) (ty : Ty) :
      RenamedTo f (.newArray as ty) (.newArray bs ty)
  | lambda {ps qs : List Param} {a b : Expr}
      (hparams : List.Forall₂ (Param.RenamedTo f) ps qs)
      (hbody : RenamedTo f a b) (ty : Ty) :
      RenamedTo f (.lambda ps a ty) (.lambda qs b ty)
  | other {as bs : List Expr} (name : String)
      (hlength : as.length = bs.length)
      (hoperands : ∀ {a b}, (a, b) ∈ as.zip bs → RenamedTo f a b) (ty : Ty) :
      RenamedTo f (.other name as ty) (.other name bs ty)

-- =============================================================== paths

variable {f : Nat → Nat} {p q p' q' : Param} {s t : Scope}

/-- Different parameters stay different, and the same stays the same. -/
theorem Param.same_renamedTo (hf : f.Injective) (h : p.RenamedTo f q)
    (h' : p'.RenamedTo f q') : q.same q' = p.same p' := by
  unfold Param.same
  rw [show q.id = f p.id from h, show q'.id = f p'.id from h']
  exact hf.beq_eq

/-- The innermost lambda that declares a parameter is as far away as
before. -/
theorem Scope.path?_renamedTo (hf : f.Injective) (hst : s.RenamedTo f t)
    (hpq : p.RenamedTo f q) : t.path? q = s.path? p := by
  have hhops : ∀ {ps qs : List Param},
      List.Forall₂ (Param.RenamedTo f) ps qs →
      qs.findIdx? q.same = ps.findIdx? p.same := by
    intro ps qs h
    induction h with
    | nil => rfl
    | cons hhead _ ih =>
        rw [List.findIdx?_cons, List.findIdx?_cons,
          Param.same_renamedTo hf hpq hhead, ih]
  unfold Scope.path? Scope.hops?
  rw [hhops hst]

-- ======================================================== compilations

namespace Expr

/-- A compilation beside that of renamed expressions. -/
def renamedSetting (env : Environment) (f : Nat → Nat) : Setting :=
  .inEnvironment env (Scope.RenamedTo f) .outcomes

variable {env : Environment} {e d : Expr}

/-- A member is a property by the place of its parameter in the scope, and a
renaming keeps the places. -/
theorem sameMembers_of_renamedTo (hf : f.Injective) (h : p.RenamedTo f q) :
    (renamedSetting env f).SameMembers p q := by
  intro s t hst name
  unfold paramMember
  rw [Scope.path?_renamedTo hf hst h]
  split
  · exact SameOutcome.ok _
  · exact SameOutcome.error rfl

theorem binds_of_renamedTo (h : p.RenamedTo f q) :
    (renamedSetting env f).Binds p q :=
  fun _ _ hst => .cons h hst

theorem resembles_of_zip {S : Setting} {as bs : List Expr}
    (hlength : as.length = bs.length)
    (h : ∀ {a b}, (a, b) ∈ as.zip bs → Corresponds S a b) :
    List.Forall₂ (Resembles S) as bs :=
  List.forall₂_iff_zip.mpr ⟨hlength, fun hmem => (h hmem).toResembles⟩

/-- Renamed expressions correspond, by induction over the tree that they
have in common. -/
theorem RenamedTo.corresponds (hf : f.Injective) (h : e.RenamedTo f d) :
    Corresponds (renamedSetting env f) e d := by
  have hkind : (renamedSetting env f).comparison.ByKind :=
    Comparison.byKind_outcomes
  induction h with
  | param h ty =>
      exact .param (Or.inr hkind) (sameMembers_of_renamedTo hf h) ty
  | constant v ty => exact .constant v ty
  | staticMember owner name ty => exact .staticMember owner name ty
  | member _ name ty ih => exact ih.member name ty
  | binary op _ _ ty ihleft ihright =>
      exact ihleft.binary ihright.toResembles op ty
  | unary op _ ty ih => exact ih.unary op ty
  | call method hlength _ ty ih =>
      exact Resembles.call (resembles_of_zip hlength ih) method ty
  | callOn _ method hlength _ ty ihreceiver ih =>
      exact ihreceiver.callOn (resembles_of_zip hlength ih) method ty
  | conditional _ _ _ ty ihtest ihyes ihno =>
      exact ihtest.conditional ihyes.toResembles ihno.toResembles
        ihno.isConditional_eq ty
  | construct hlength _ ty ih =>
      exact Resembles.construct (resembles_of_zip hlength ih) ty
  | newArray hlength _ ty ih =>
      exact Resembles.newArray (resembles_of_zip hlength ih) ty
  | lambda hparams _ ty ih =>
      exact Resembles.lambda (hparams.imp fun _ _ => binds_of_renamedTo)
        (Or.inr hkind) ih.toResembles ty
  | other name hlength _ ty ih =>
      exact Resembles.other (resembles_of_zip hlength ih) name ty

/-- Compilation does not depend on what parameters are called. With the
numbers of all parameters, bound and free, mapped by an injective map and
their names changed at will, in the expression and in the scope, the
criterion is the same, or there is an error of the same kind. -/
theorem compileIn_renamedTo (env : Environment) {f : Nat → Nat}
    (hf : f.Injective) {e d : Expr} (he : e.RenamedTo f d) {s t : Scope}
    (hs : s.RenamedTo f t) :
    SameOutcome (e.compileIn env s) (d.compileIn env t) :=
  (he.corresponds hf).outcome hs

/-- `c.Orders.Any(o => o.Total > c.Limit)`, with parameters of any numbers
and names, also for `c` at its second place. -/
def ordersAbove (c o c' : Param) : Expr :=
  .call (.enumerable "Any")
    [.member (.param c (.object "Customer")) "Orders"
      (.sequence (.object "Order")),
     .lambda [o] (.binary .greaterThan
      (.member (.param o (.object "Order")) "Total" .int32)
      (.member (.param c' (.object "Customer")) "Limit" .int32) .bool) .bool]
    .bool

theorem ordersAbove_renamedTo {f : Nat → Nat} {c o c' d q d' : Param}
    (hc : c.RenamedTo f d) (ho : o.RenamedTo f q) (hc' : c'.RenamedTo f d') :
    (ordersAbove c o c').RenamedTo f (ordersAbove d q d') := by
  have horders := Expr.RenamedTo.member (.param hc (.object "Customer"))
    "Orders" (.sequence (.object "Order"))
  have hexceeds := Expr.RenamedTo.binary .greaterThan
    (.member (.param ho (.object "Order")) "Total" .int32)
    (.member (.param hc' (.object "Customer")) "Limit" .int32) .bool
  refine .call _ (by rfl) (fun {a b} h => ?_) _
  simp only [List.zip_cons_cons, List.zip_nil_right, List.mem_cons,
    List.not_mem_nil, or_false, Prod.mk.injEq] at h
  rcases h with ⟨rfl, rfl⟩ | ⟨rfl, rfl⟩
  · exact horders
  · exact .lambda (.cons ho .nil) hexceeds .bool

/-- The parameters exchange their numbers and become namesakes, but for the
place where the limit is read, and it is still found one collection out. -/
theorem compileIn_renamedTo_namesakes :
    let env : Environment := ⟨.empty, .bare⟩
    let c : Param := ⟨0, "c", .object "Customer"⟩
    let o : Param := ⟨1, "o", .object "Order"⟩
    let x : Param := ⟨1, "x", .object "Customer"⟩
    let x' : Param := ⟨0, "x", .object "Order"⟩
    let y : Param := ⟨1, "y", .object "Customer"⟩
    SameOutcome ((ordersAbove c o c).compileIn env ⟨[c]⟩)
        ((ordersAbove x x' y).compileIn env ⟨[y]⟩)
      ∧ (ordersAbove x x' y).compileIn env ⟨[y]⟩
        = .ok (.aggregate "Orders" .any none (some
          (.binary .greater (.property "Total") (.property "^.Limit")))) := by
  intro env c o x x' y
  have hx : c.RenamedTo (Equiv.swap 0 1) x := rfl
  have hx' : o.RenamedTo (Equiv.swap 0 1) x' := rfl
  have hy : c.RenamedTo (Equiv.swap 0 1) y := rfl
  exact ⟨compileIn_renamedTo env (Equiv.injective (Equiv.swap 0 1))
    (ordersAbove_renamedTo hx hx' hy) (.cons hy .nil), rfl⟩

end Expr

end FilterCriteria
