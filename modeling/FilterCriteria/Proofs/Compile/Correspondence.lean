/-
Compilations side by side. Two compilations may differ in the registry, in
the scope and in the expressions, and their results are compared. Around an
operand, every rule looks at what it compiles to, and some at whether it is
closed and what it folds to; operands may resemble each other in that
(`Resembles`). Three rules look at more: a member at the static type of its
object and whether this is a parameter, a cast at the static type of its
operand, and a conditional at whether its alternative is one. Operands that
correspond in all of this (`Corresponds`) make expressions that do, node by
node.

# One lemma for each kind of node

The results compare because the rules do (`Comparison`, one lemma for each
rule); here each kind of node hands its operands over to its rule. A lemma
asks for no more of an operand than its node does, so resemblance is enough
wherever it can be, and what comes out always corresponds. Every statement
on two compilations (other scopes, other names of parameters, an operand put
in the place of another one) is then an induction that cites these lemmas and
says only what is different at the node where something is.

# The same expression

What one expression compiles to depends on the scope only through the members
of parameters, and on the registry only through the functions of methods: an
expression corresponds to itself wherever these compare
(`corresponds_self`).
-/
import FilterCriteria.Proofs.Compile.Outcome
import FilterCriteria.Proofs.Eval.Fold

namespace FilterCriteria

open Compile

namespace Expr

-- ==================================================== what parents see

/-- The parameter that an expression is. -/
def param? : Expr → Option Param
  | .param p _ => some p
  | _ => none

def isConditional : Expr → Bool
  | .conditional .. => true
  | _ => false

/-- What counts as a parameter is one. -/
theorem eq_of_param? {e : Expr} {p : Param} (h : e.param? = some p) :
    ∃ ty, e = .param p ty := by
  cases e <;> cases h
  exact ⟨_, rfl⟩

theorem not_param_of_param? {e : Expr} (h : e.param? = none) :
    ¬ ∃ p ty, e = .param p ty := by
  rintro ⟨p, ty, rfl⟩
  cases h

/-- What counts as a conditional is one. -/
theorem eq_conditional {e : Expr} (h : e.isConditional = true) :
    ∃ test yes no ty, e = .conditional test yes no ty := by
  cases e <;> cases h
  exact ⟨_, _, _, _, rfl⟩

/-- An alternative that is no conditional is one branch. -/
theorem branches_of_isConditional {e : Expr} (h : e.isConditional = false)
    (c : Criterion) : branches e c = [c] := by
  cases e with
  | conditional => cases h
  | _ => rfl

/-- Of an alternative, its branches depend on whether it is a conditional. -/
theorem branches_congr {a b : Expr} (h : a.isConditional = b.isConditional)
    (c : Criterion) : branches a c = branches b c := by
  cases ha : a.isConditional with
  | false =>
      rw [branches_of_isConditional ha, branches_of_isConditional (h ▸ ha)]
  | true =>
      obtain ⟨test, yes, no, ty, rfl⟩ := eq_conditional ha
      obtain ⟨test', yes', no', ty', rfl⟩ := eq_conditional (h ▸ ha)
      cases c <;> rfl

-- ============================================================ settings

/-- Two compilations with one evaluator: their registries, the scopes that
they may be in at the same time, and how their results compare. -/
structure Setting where
  evaluator : Evaluator
  left : Registry
  right : Registry
  Scopes : Scope → Scope → Prop
  comparison : Comparison
  function : ∀ name, comparison.Holds (function ⟨left, evaluator⟩ name)
    (function ⟨right, evaluator⟩ name)

namespace Setting

/-- Two compilations in one environment. -/
def inEnvironment (env : Environment) (Scopes : Scope → Scope → Prop)
    (K : Comparison) : Setting :=
  ⟨env.evaluator, env.registry, env.registry, Scopes, K, fun _ => K.refl _⟩

variable (S : Setting)

/-- Members of the one parameter are compared with those of the other. -/
def SameMembers (p q : Param) : Prop :=
  ∀ ⦃s t⦄, S.Scopes s t → ∀ name,
    S.comparison.Holds (paramMember s p name) (paramMember t q name)

/-- The compilations may go into lambdas with these parameters. -/
def Binds (p q : Param) : Prop :=
  ∀ ⦃s t⦄, S.Scopes s t → S.Scopes (s.enter p) (t.enter q)

end Setting

/-- The expressions resemble each other in what most rules ask about an
operand. -/
structure Resembles (S : Setting) (a b : Expr) : Prop where
  blame : S.comparison.SameBlame a b
  isClosed_eq : a.isClosed = b.isClosed
  fold_eq : a.fold S.evaluator = b.fold S.evaluator
  outcome : ∀ ⦃s t⦄, S.Scopes s t →
    S.comparison.Holds (a.compileIn ⟨S.left, S.evaluator⟩ s)
      (b.compileIn ⟨S.right, S.evaluator⟩ t)

/-- The expressions correspond in all that compilation asks about an
operand. -/
structure Corresponds (S : Setting) (a b : Expr) : Prop
    extends Resembles S a b where
  type_eq : a.type = b.type
  params : Option.Rel S.SameMembers a.param? b.param?
  isConditional_eq : a.isConditional = b.isConditional

variable {S : Setting} {a b : Expr} {as bs : List Expr}

namespace Resembles

-- ============================================================ operands

/-- Operands that resemble each other are blamed alike. -/
theorem blames (h : List.Forall₂ (Resembles S) as bs) :
    List.Forall₂ S.comparison.SameBlame as bs :=
  h.imp fun _ _ h => h.blame

/-- The blame for what is made of several operands. -/
theorem blame_congr (h : List.Forall₂ (Resembles S) as bs)
    (make : List Expr → Expr) :
    S.comparison.SameBlame (make as) (make bs) := by
  have hlists : as = bs ∨ S.comparison.ByKind := by
    induction h with
    | nil => exact Or.inl rfl
    | cons hhead _ ih =>
        rcases hhead.blame with rfl | hkind
        · exact ih.imp_left (congrArg (_ :: ·))
        · exact Or.inr hkind
  exact hlists.imp_left (congrArg make)

/-- They are closed together, or both lists have a parameter in them. -/
theorem allClosed_eq (h : List.Forall₂ (Resembles S) as bs) :
    allClosed as = allClosed bs := by
  induction h with
  | nil => rfl
  | cons hhead _ ih =>
      unfold allClosed
      rw [hhead.isClosed_eq, ih]

/-- They evaluate to the same values. -/
theorem foldAll_eq (h : List.Forall₂ (Resembles S) as bs) :
    foldAll S.evaluator as = foldAll S.evaluator bs := by
  induction h with
  | nil => rfl
  | cons hhead _ ih => rw [foldAll_cons, foldAll_cons, hhead.fold_eq, ih]

/-- They compile to results that compare, one by one. -/
theorem outcomes (h : List.Forall₂ (Resembles S) as bs) {s t : Scope}
    (hscopes : S.Scopes s t) :
    List.Forall₂ S.comparison.Holds
      (compileEach ⟨S.left, S.evaluator⟩ s as)
      (compileEach ⟨S.right, S.evaluator⟩ t bs) := by
  induction h with
  | nil => exact .nil
  | cons hhead _ ih =>
      unfold compileEach
      exact .cons (hhead.outcome hscopes) ih

-- =============================================================== nodes

/-- The member of a parameter is a property of its own; of other objects
the members are functions, folded, or parts of what the object compiles
to, and each time they are so for both. -/
theorem member (h : Resembles S a b)
    (hparams : Option.Rel S.SameMembers a.param? b.param?) {name : String}
    (hfunction : memberFunction? a.type name = memberFunction? b.type name)
    (ty : Ty) : Corresponds S (.member a name ty) (.member b name ty) := by
  have hblame : S.comparison.SameBlame (.member a name ty)
      (.member b name ty) := h.blame.imp_left (congrArg (Expr.member · name ty))
  have hfold : (Expr.member a name ty).fold S.evaluator
      = (Expr.member b name ty).fold S.evaluator := by
    rw [fold_member, fold_member, h.fold_eq]
  refine ⟨⟨hblame, h.isClosed_eq, hfold, fun s t hscopes => ?_⟩, rfl, .none,
    rfl⟩
  -- both objects are parameters, or neither is
  generalize ha : a.param? = x, hb : b.param? = y at hparams
  cases hparams with
  | some hmembers =>
      obtain ⟨_, rfl⟩ := eq_of_param? ha
      obtain ⟨_, rfl⟩ := eq_of_param? hb
      exact hmembers hscopes name
  | none =>
      have ha := not_param_of_param? ha
      have hb := not_param_of_param? hb
      unfold compileIn
      cases hf : memberFunction? a.type name with
      | some f =>
          rw [member_of_function ha hf,
            member_of_function hb (hfunction ▸ hf)]
          exact Comparison.bind_const (h.outcome hscopes) _
      | none =>
          rw [member_of_read ha hf, member_of_read hb (hfunction ▸ hf),
            h.isClosed_eq]
          split
          · exact Comparison.foldedOr hblame hfold
              (hblame.error .expression fun _ _ => rfl)
          · exact S.comparison.bind (h.outcome hscopes) fun c =>
              Comparison.memberOf hblame name c

/-- Of two operands: no rule looks at more than what they compile to. -/
theorem binary {c d : Expr} (hleft : Resembles S a b)
    (hright : Resembles S c d) (op : BinaryOp) (ty : Ty) :
    Corresponds S (.binary op a c ty) (.binary op b d ty) where
  blame := by
    rcases hleft.blame with rfl | hkind
    · exact hright.blame.imp_left (congrArg (Expr.binary op a · ty))
    · exact Or.inr hkind
  type_eq := rfl
  params := .none
  isConditional_eq := rfl
  isClosed_eq := by
    unfold isClosed
    rw [hleft.isClosed_eq, hright.isClosed_eq]
  fold_eq := rfl
  outcome _ _ hscopes :=
    Comparison.binary op (hleft.outcome hscopes) (hright.outcome hscopes)

/-- A cast goes by the type that it starts from as well, so the types have to
compare (`hsource`); the other operators ask for nothing more. -/
theorem unary (h : Resembles S a b) {op : UnaryOp} {ty : Ty}
    (hsource : op = .convert → S.comparison.SameSource ty a.type b.type) :
    Corresponds S (.unary op a ty) (.unary op b ty) := by
  have hblame : S.comparison.SameBlame (.unary op a ty) (.unary op b ty) :=
    h.blame.imp_left (congrArg (Expr.unary op · ty))
  have hfold : (Expr.unary op a ty).fold S.evaluator
      = (Expr.unary op b ty).fold S.evaluator := by
    cases op with
    | convert => rw [fold_convert, fold_convert, h.fold_eq]
    | _ => rfl
  exact ⟨⟨hblame, h.isClosed_eq, hfold, fun s t hscopes =>
    Comparison.unary op hsource hblame hfold (h.outcome hscopes)⟩, rfl, .none,
    rfl⟩

/-- A call may be constant, and else goes by its method, which both have. -/
theorem call (h : List.Forall₂ (Resembles S) as bs) (method : Method)
    (ty : Ty) : Corresponds S (.call method as ty) (.call method bs ty) := by
  have hblame := blame_congr h (Expr.call method · ty)
  have hfold : (Expr.call method as ty).fold S.evaluator
      = (Expr.call method bs ty).fold S.evaluator := by
    rw [fold_call, fold_call, foldAll_eq h]
  exact ⟨⟨hblame, allClosed_eq h, hfold, fun _ _ hscopes =>
    Comparison.call S.function hblame method hfold .none (blames h)
      (outcomes h hscopes)⟩, rfl, .none, rfl⟩

theorem callOn (hreceiver : Resembles S a b)
    (h : List.Forall₂ (Resembles S) as bs) (method : Method) (ty : Ty) :
    Corresponds S (.callOn a method as ty) (.callOn b method bs ty) := by
  have hblame : S.comparison.SameBlame (.callOn a method as ty)
      (.callOn b method bs ty) := by
    rcases hreceiver.blame with rfl | hkind
    · exact blame_congr h (Expr.callOn a method · ty)
    · exact Or.inr hkind
  have hfold : (Expr.callOn a method as ty).fold S.evaluator
      = (Expr.callOn b method bs ty).fold S.evaluator := by
    rw [fold_callOn, fold_callOn, hreceiver.fold_eq, foldAll_eq h]
  have hclosed : (Expr.callOn a method as ty).isClosed
      = (Expr.callOn b method bs ty).isClosed := by
    unfold isClosed
    rw [hreceiver.isClosed_eq, allClosed_eq h]
  exact ⟨⟨hblame, hclosed, hfold, fun _ _ hscopes =>
    Comparison.call S.function hblame method hfold
      (.some (hreceiver.outcome hscopes)) (blames h) (outcomes h hscopes)⟩,
    rfl, .none, rfl⟩

/-- The alternative may go on in the list of branches, so both have to be
conditionals, or neither. -/
theorem conditional {c d c' d' : Expr} (htest : Resembles S a b)
    (hyes : Resembles S c d) (hno : Resembles S c' d')
    (hbranches : c'.isConditional = d'.isConditional) (ty : Ty) :
    Corresponds S (.conditional a c c' ty) (.conditional b d d' ty) where
  blame := by
    rcases htest.blame with rfl | hkind
    · rcases hyes.blame with rfl | hkind
      · exact hno.blame.imp_left (congrArg (Expr.conditional a c · ty))
      · exact Or.inr hkind
    · exact Or.inr hkind
  type_eq := rfl
  params := .none
  isConditional_eq := rfl
  isClosed_eq := by
    unfold isClosed
    rw [htest.isClosed_eq, hyes.isClosed_eq, hno.isClosed_eq]
  fold_eq := rfl
  outcome _ _ hscopes :=
    Comparison.conditional (branches_congr hbranches)
      (htest.outcome hscopes) (hyes.outcome hscopes) (hno.outcome hscopes)

theorem construct (h : List.Forall₂ (Resembles S) as bs) (ty : Ty) :
    Corresponds S (.construct as ty) (.construct bs ty) := by
  have hblame := blame_congr h (Expr.construct · ty)
  have hfold : (Expr.construct as ty).fold S.evaluator
      = (Expr.construct bs ty).fold S.evaluator := by
    rw [fold_construct, fold_construct, foldAll_eq h]
  exact ⟨⟨hblame, allClosed_eq h, hfold, fun _ _ _ =>
    Comparison.foldedOr hblame hfold
      (hblame.error .construction fun _ _ => rfl)⟩, rfl, .none, rfl⟩

/-- An array is a literal of the values of its elements, so the blame for an
element that has none has to compare too. -/
theorem newArray (h : List.Forall₂ (Resembles S) as bs) (ty : Ty) :
    Corresponds S (.newArray as ty) (.newArray bs ty) where
  blame := blame_congr h (Expr.newArray · ty)
  type_eq := rfl
  params := .none
  isConditional_eq := rfl
  isClosed_eq := allClosed_eq h
  fold_eq := by rw [fold_newArray, fold_newArray, foldAll_eq h]
  outcome _ _ hscopes := Comparison.bind_const
    (Comparison.elementValues (blames h) (outcomes h hscopes)) _

/-- A lambda with one parameter is its body in a larger scope, and another
lambda has no criterion. -/
theorem lambda {ps qs : List Param} (hbinds : List.Forall₂ S.Binds ps qs)
    (hblame : ps = qs ∨ S.comparison.ByKind) (h : Resembles S a b)
    (ty : Ty) : Corresponds S (.lambda ps a ty) (.lambda qs b ty) := by
  have hnodes : S.comparison.SameBlame (.lambda ps a ty)
      (.lambda qs b ty) := by
    rcases hblame with rfl | hkind
    · exact h.blame.imp_left (congrArg (Expr.lambda ps · ty))
    · exact Or.inr hkind
  refine ⟨⟨hnodes, rfl, rfl, fun s t hscopes => ?_⟩, rfl, .none, rfl⟩
  have herror := hnodes.error (α := Criterion) .expression fun _ _ => rfl
  rcases hbinds with _ | ⟨hbind, _ | ⟨_, _⟩⟩
  · exact herror
  · exact h.outcome (hbind hscopes)
  · exact herror

theorem other (h : List.Forall₂ (Resembles S) as bs) (name : String)
    (ty : Ty) : Corresponds S (.other name as ty) (.other name bs ty) := by
  have hblame := blame_congr h (Expr.other name · ty)
  exact ⟨⟨hblame, allClosed_eq h, rfl, fun _ _ _ =>
    hblame.error .expression fun _ _ => rfl⟩, rfl, .none, rfl⟩

end Resembles

namespace Corresponds

/-- A parameter alone has no criterion; what it brings along are its members.
-/
theorem param {p q : Param} (hblame : p = q ∨ S.comparison.ByKind)
    (hmembers : S.SameMembers p q) (ty : Ty) :
    Corresponds S (.param p ty) (.param q ty) := by
  have hnodes : S.comparison.SameBlame (.param p ty) (.param q ty) :=
    hblame.imp_left (congrArg (Expr.param · ty))
  exact ⟨⟨hnodes, rfl, rfl, fun _ _ _ =>
    hnodes.error .expression fun _ _ => rfl⟩, rfl, .some hmembers, rfl⟩

theorem constant (v : Value) (ty : Ty) :
    Corresponds S (.constant v ty) (.constant v ty) :=
  ⟨⟨.inl rfl, rfl, rfl, fun _ _ _ => S.comparison.refl _⟩, rfl, .none, rfl⟩

theorem staticMember (owner name : String) (ty : Ty) :
    Corresponds S (.staticMember owner name ty)
      (.staticMember owner name ty) :=
  ⟨⟨.inl rfl, rfl, rfl, fun _ _ _ =>
    Comparison.foldedOr (.inl rfl) rfl (S.comparison.refl _)⟩, rfl, .none, rfl⟩

/-- An object that corresponds has all that a member asks for. -/
theorem member (h : Corresponds S a b) (name : String) (ty : Ty) :
    Corresponds S (.member a name ty) (.member b name ty) :=
  h.toResembles.member h.params (by rw [h.type_eq]) ty

/-- An operand that corresponds has the type a cast asks for. -/
theorem unary (h : Corresponds S a b) (op : UnaryOp) (ty : Ty) :
    Corresponds S (.unary op a ty) (.unary op b ty) :=
  h.toResembles.unary fun _ => Or.inl h.type_eq

end Corresponds

-- ================================================= the same expression

/-- An expression corresponds to itself if its parameters do, by induction
over its operands. -/
theorem corresponds_self (hbinds : ∀ p, S.Binds p p)
    (hmembers : ∀ p, S.SameMembers p p) (e : Expr) : Corresponds S e e := by
  induction e using induction_children with
  | step e ih =>
      have hself : ∀ a ∈ e.children, Resembles S a a :=
        fun a ha => (ih a ha).toResembles
      have hoperands : ∀ es : List Expr, (∀ a ∈ es, a ∈ e.children) →
          List.Forall₂ (Resembles S) es es := fun es hes =>
        List.forall₂_same.mpr fun a ha => hself a (hes a ha)
      cases e with
      | param p ty => exact .param (.inl rfl) (hmembers p) ty
      | constant v ty => exact .constant v ty
      | staticMember owner name ty => exact .staticMember owner name ty
      | member object name ty =>
          exact .member (ih object (by simp [children])) name ty
      | binary op left right ty =>
          exact Resembles.binary (hself left (by simp [children]))
            (hself right (by simp [children])) op ty
      | unary op operand ty =>
          exact .unary (ih operand (by simp [children])) op ty
      | call method args ty =>
          exact Resembles.call (hoperands args fun _ h => h) method ty
      | callOn receiver method args ty =>
          exact Resembles.callOn (hself receiver (by simp [children]))
            (hoperands args fun _ h => List.mem_cons_of_mem _ h) method ty
      | conditional test yes no ty =>
          exact Resembles.conditional (hself test (by simp [children]))
            (hself yes (by simp [children])) (hself no (by simp [children]))
            rfl ty
      | construct args ty =>
          exact Resembles.construct (hoperands args fun _ h => h) ty
      | newArray elements ty =>
          exact Resembles.newArray (hoperands elements fun _ h => h) ty
      | lambda params body ty =>
          exact Resembles.lambda (List.forall₂_same.mpr fun p _ => hbinds p)
            (.inl rfl) (hself body (by simp [children])) ty
      | other name operands ty =>
          exact Resembles.other (hoperands operands fun _ h => h) name ty

end Expr

end FilterCriteria
