/-
Tests for an element of a constant sequence. The sequence is not evaluated as
a whole but compiled, and then has to be a literal. On the way an array goes
element by element, and a cast that leaves no trace is passed by without
asking the evaluator. So the values in the test are those of the sequence
without such casts (`Expr.uncast`), and there is a test at all only if no
member that is a function stands in the place of a value
(`Expr.accessorFree`).

Both halves are inductions over the places that `uncast` goes through: a
constant expression compiles to what it evaluates to without its casts
(`compileIn_of_fold_uncast`), and one that compiles to a literal has no member
that is a function in these places (`accessorFree_of_compileIn`). Where every
cast keeps the value that it is given (`CastsKeep`), leaving the casts out
does not change what the sequence evaluates to (`fold_uncast_of_castsKeep`).

The main statement is `compileIn_contains_iff`. The sequences in
`compileIn_contains_differs` come out in another way than they evaluate.
-/
import FilterCriteria.Host
import FilterCriteria.Proofs.Compile.Derivation
import FilterCriteria.Proofs.Compile.Folding

namespace FilterCriteria

open Compile

namespace Expr

-- ===================================================== places of values

mutual

/-- The expression without the casts that leave no trace, around itself and
around the elements of an array. -/
def uncast : Expr → Expr
  | .unary .convert operand ty =>
    if isReferenceCast operand.type ty then operand.uncast
    else .unary .convert operand ty
  | .newArray elements ty => .newArray (uncastEach elements) ty
  | e => e
termination_by structural e => e

def uncastEach : List Expr → List Expr
  | [] => []
  | e :: rest => e.uncast :: uncastEach rest
termination_by structural es => es

end

mutual

/-- The expression is no member that is a function, nor is an element of it
if it is an array. -/
def accessorFree : Expr → Bool
  | .member object name _ => (memberFunction? object.type name).isNone
  | .newArray elements _ => accessorFreeEach elements
  | _ => true
termination_by structural e => e

def accessorFreeEach : List Expr → Bool
  | [] => true
  | e :: rest => e.accessorFree && accessorFreeEach rest
termination_by structural es => es

end

mutual

/-- The casts that leave no trace, around the expression and around the
elements of an array, keep the values that they are given. -/
def CastsKeep (ev : Evaluator) : Expr → Prop
  | .unary .convert operand ty =>
    isReferenceCast operand.type ty = true → operand.CastsKeep ev
      ∧ ∀ v, operand.fold ev = .ok (some v) → ev.convert v ty = .ok v
  | .newArray elements _ => CastsKeepEach ev elements
  | _ => True
termination_by structural e => e

def CastsKeepEach (ev : Evaluator) : List Expr → Prop
  | [] => True
  | e :: rest => e.CastsKeep ev ∧ CastsKeepEach ev rest
termination_by structural es => es

end

variable {env : Environment} {scope : Scope} {ev : Evaluator}

-- ======================================================== what evaluates

/-- Expressions that fold each fold in a row. -/
theorem exists_foldAll {es : List Expr}
    (h : ∀ e ∈ es, ∃ v, e.fold ev = .ok (some v)) :
    ∃ vs, foldAll ev es = .ok (some vs) := by
  induction es with
  | nil => exact ⟨[], rfl⟩
  | cons e rest ih =>
      obtain ⟨⟨v, hv⟩, hrest⟩ := List.forall_mem_cons.mp h
      obtain ⟨vs, hvs⟩ := ih hrest
      refine ⟨v :: vs, ?_⟩
      rw [foldAll_cons, hv, hvs]
      rfl

/-- What is left of an array without casts are its elements without theirs. -/
theorem mem_uncastEach {es : List Expr} {d : Expr} (h : d ∈ uncastEach es) :
    ∃ e ∈ es, d = e.uncast := by
  induction es with
  | nil => cases h
  | cons e rest ih =>
      rcases List.mem_cons.mp h with rfl | h
      · exact ⟨e, List.mem_cons_self .., rfl⟩
      · obtain ⟨a, ha, rfl⟩ := ih h
        exact ⟨a, List.mem_cons_of_mem _ ha, rfl⟩

/-- What is constant stays so without the casts. -/
theorem exists_fold_uncast (e : Expr) :
    ∀ v, e.fold ev = .ok (some v) → ∃ w, e.uncast.fold ev = .ok (some w) := by
  induction e using induction_children with
  | step e ih =>
      intro v h
      -- an operand of what folds has to fold too, so the induction applies to
      -- it; its value may be another one without the casts
      have hchildren : ∀ a ∈ e.children,
          ∃ w, a.uncast.fold ev = .ok (some w) := by
        intro a ha
        obtain ⟨w, hw⟩ := fold_of_mem_children h a ha
        exact ih a ha w hw
      cases e with
      | newArray elements ty =>
          have helements : ∀ d ∈ uncastEach elements,
              ∃ w, d.fold ev = .ok (some w) := by
            intro d hd
            obtain ⟨a, ha, rfl⟩ := mem_uncastEach hd
            exact hchildren a ha
          obtain ⟨ws, hws⟩ := exists_foldAll helements
          refine ⟨.array ws, ?_⟩
          unfold uncast
          rw [fold_newArray, hws]
          rfl
      | unary op operand ty =>
          cases op with
          | convert =>
              unfold uncast
              split
              · exact hchildren operand (List.mem_singleton_self _)
              · exact ⟨v, h⟩
          | _ => exact ⟨v, h⟩
      | _ => exact ⟨v, h⟩

/-- Elements that each evaluate to the same without their casts do so in a
row. -/
theorem foldAll_uncastEach {es : List Expr} {vs : List Value}
    (ih : ∀ e ∈ es, e.CastsKeep ev → ∀ v, e.fold ev = .ok (some v) →
      e.uncast.fold ev = .ok (some v))
    (hkeep : CastsKeepEach ev es) (h : foldAll ev es = .ok (some vs)) :
    foldAll ev (uncastEach es) = .ok (some vs) := by
  induction es generalizing vs with
  | nil => exact h
  | cons e rest ihrest =>
      obtain ⟨hhead, htail⟩ := List.forall_mem_cons.mp ih
      rw [foldAll_cons] at h
      obtain ⟨v, hv, h⟩ := onValue_eq_some h
      obtain ⟨ws, hws, h⟩ := onValue_eq_some h
      cases h
      show foldAll ev (e.uncast :: uncastEach rest) = _
      rw [foldAll_cons, hhead hkeep.1 v hv, ihrest htail hkeep.2 hws]
      rfl

/-- Where the casts keep the values, a constant expression evaluates to the
same without them. -/
theorem fold_uncast_of_castsKeep (e : Expr) :
    e.CastsKeep ev → ∀ v, e.fold ev = .ok (some v) →
      e.uncast.fold ev = .ok (some v) := by
  induction e using induction_children with
  | step e ih =>
      intro hkeep v h
      cases e with
      | newArray elements ty =>
          unfold uncast
          rw [fold_newArray] at h ⊢
          obtain ⟨vs, hvs, h⟩ := onValue_eq_some h
          have helements : foldAll ev (uncastEach elements) = .ok (some vs) :=
            foldAll_uncastEach ih hkeep hvs
          rw [helements]
          exact h
      | unary op operand ty =>
          cases op with
          | convert =>
              unfold uncast
              split
              · next hcast =>
                obtain ⟨hoperand, hsame⟩ := hkeep hcast
                rw [fold_convert] at h
                obtain ⟨w, hw, h⟩ := onValue_eq_some h
                -- the cast gives back the value of its operand
                rw [hsame w hw] at h
                cases h
                exact ih operand (List.mem_singleton_self _) hoperand v hw
              · exact h
          | _ => exact h
      | _ => exact h

-- ========================================================= what compiles

/-- The elements of an array that fold without their casts compile to these
values. -/
theorem forall₂_of_foldAll_uncastEach {es : List Expr} {vs : List Value}
    (ih : ∀ e ∈ es, e.uncast.accessorFree = true → ∀ v,
      e.uncast.fold env.evaluator = .ok (some v) →
      e.compileIn env scope = .ok (.literal v))
    (hfree : accessorFreeEach (uncastEach es) = true)
    (h : foldAll env.evaluator (uncastEach es) = .ok (some vs)) :
    List.Forall₂ (fun e v => e.compileIn env scope = .ok (.literal v))
      es vs := by
  induction es generalizing vs with
  | nil =>
      cases h
      exact .nil
  | cons e rest ihrest =>
      obtain ⟨hhead, htail⟩ := List.forall_mem_cons.mp ih
      obtain ⟨hfreeHead, hfreeTail⟩ := Bool.and_eq_true_iff.mp hfree
      change foldAll env.evaluator (e.uncast :: uncastEach rest) = _ at h
      rw [foldAll_cons] at h
      obtain ⟨v, hv, h⟩ := onValue_eq_some h
      obtain ⟨ws, hws, h⟩ := onValue_eq_some h
      cases h
      exact .cons (hhead hfreeHead v hv) (ihrest htail hfreeTail hws)

/-- Where no member that is a function stands in the place of a value, an
expression compiles to what it evaluates to without its casts. -/
theorem compileIn_of_fold_uncast (e : Expr) :
    e.uncast.accessorFree = true → ∀ v,
      e.uncast.fold env.evaluator = .ok (some v) →
      e.compileIn env scope = .ok (.literal v) := by
  induction e using induction_children with
  | step e ih =>
      intro hfree v h
      cases e with
      | newArray elements ty =>
          unfold uncast at hfree h
          rw [fold_newArray] at h
          obtain ⟨vs, hvs, h⟩ := onValue_eq_some h
          cases h
          exact bind_eq_ok.mpr ⟨vs, elementValues_compileEach.mpr
            (forall₂_of_foldAll_uncastEach ih hfree hvs), rfl⟩
      | unary op operand ty =>
          cases op with
          | convert =>
              unfold uncast at hfree h
              split at h
              · next hcast =>
                rw [if_pos hcast] at hfree
                have hcompile : (Expr.unary .convert operand ty).compileIn env
                    scope = operand.compileIn env scope := if_pos hcast
                rw [hcompile]
                exact ih operand (List.mem_singleton_self _) hfree v h
              · next hcast =>
                exact compileIn_of_asksEvaluator
                  (by simpa [asksEvaluator] using hcast) h
          | _ => cases h
      | member object name ty =>
          obtain ⟨w, hw⟩ := fold_of_mem_children h object
            (List.mem_singleton_self _)
          refine compileIn_of_asksEvaluator ?_ h
          exact Bool.and_eq_true_iff.mpr ⟨isClosed_of_fold object w hw, hfree⟩
      -- all that is left either asks the evaluator or is never constant
      | constant | staticMember | call | callOn | construct =>
          exact compileIn_of_asksEvaluator rfl h
      | param | binary | conditional | lambda | other => cases h

theorem accessorFreeEach_uncastEach {es : List Expr}
    (h : ∀ e ∈ es, e.uncast.accessorFree = true) :
    accessorFreeEach (uncastEach es) = true := by
  induction es with
  | nil => rfl
  | cons e rest ih =>
      obtain ⟨hhead, htail⟩ := List.forall_mem_cons.mp h
      exact Bool.and_eq_true_iff.mpr ⟨hhead, ih htail⟩

/-- A member that is a function of a constant object compiles to that function
and to no literal. -/
theorem memberFunction?_eq_none {object : Expr} {name : String} {ty : Ty}
    {v w : Value} (hfold : object.fold env.evaluator = .ok (some w))
    (h : (Expr.member object name ty).compileIn env scope
      = .ok (.literal v)) :
    memberFunction? object.type name = none := by
  have hparam : ¬ ∃ p ty, object = .param p ty := by
    rintro ⟨p, ty, rfl⟩
    cases hfold
  cases hf : memberFunction? object.type name with
  | none => rfl
  | some f =>
      unfold compileIn at h
      rw [member_of_function hparam hf] at h
      obtain ⟨c, -, h⟩ := bind_eq_ok.mp h
      cases h

/-- A constant expression that compiles to a literal has no member that is a
function in the place of a value. -/
theorem accessorFree_of_compileIn (e : Expr) :
    ∀ v w, e.fold env.evaluator = .ok (some w) →
      e.compileIn env scope = .ok (.literal v) →
      e.uncast.accessorFree = true := by
  induction e using induction_children with
  | step e ih =>
      intro v w hfold h
      have hchildren := fold_of_mem_children hfold
      cases e with
      | newArray elements ty =>
          obtain ⟨vs, hvs, -⟩ := bind_eq_ok.mp h
          obtain ⟨hlength, heach⟩ :=
            List.forall₂_iff_get.mp (elementValues_compileEach.mp hvs)
          refine accessorFreeEach_uncastEach fun a ha => ?_
          obtain ⟨u, hu⟩ := hchildren a ha
          obtain ⟨i, hi, rfl⟩ := List.mem_iff_getElem.mp ha
          exact ih _ ha _ u hu (heach i hi (hlength ▸ hi))
      | unary op operand ty =>
          cases op with
          | convert =>
              unfold uncast
              split
              · next hcast =>
                obtain ⟨u, hu⟩ := hchildren operand (List.mem_singleton_self _)
                have hcompile : (Expr.unary .convert operand ty).compileIn env
                    scope = operand.compileIn env scope := if_pos hcast
                rw [hcompile] at h
                exact ih operand (List.mem_singleton_self _) v u hu h
              · rfl
          | _ => rfl
      | member object name ty =>
          obtain ⟨u, hu⟩ := hchildren object (List.mem_singleton_self _)
          have hnone := memberFunction?_eq_none hu h
          unfold uncast accessorFree
          rw [hnone]
          rfl
      | _ => rfl

-- ========================================================== membership

variable {method : Method} {source probe : Expr} {p : Criterion}
  {items : List Value}

/-- With a probe that is not constant, the test is no constant either. -/
theorem fold_call_of_probe (ty : Ty) {v : Value}
    (hsource : source.fold ev = .ok (some v))
    (hprobe : probe.fold ev = .ok none) :
    (Expr.call method [source, probe] ty).fold ev = .ok none := by
  rw [fold_call, foldAll_cons, foldAll_cons, hsource, hprobe]
  rfl

/-- Only an array has elements. -/
theorem eq_array_of_elements? {v : Value} {vs : List Value}
    (h : v.elements? = some vs) : v = .array vs := by
  cases v with
  | array items =>
      cases h
      rfl
  | _ => cases h

/-- What the test has, whatever the casts do. -/
theorem compileIn_contains (ty : Ty)
    (hmethod : method.onSequence = true) (hname : method.name = "Contains")
    (hsource : source.fold env.evaluator = .ok (some (.array items)))
    (hprobe : probe.compileIn env scope = .ok p)
    (hopen : probe.fold env.evaluator = .ok none) (c : Criterion) :
    (Expr.call method [source, probe] ty).compileIn env scope = .ok c
      ↔ source.uncast.accessorFree = true ∧ ∃ values,
        source.uncast.fold env.evaluator = .ok (some (.array values))
          ∧ c = .within p (values.map .literal) := by
  have hfold : (Expr.call method [source, probe] ty).fold env.evaluator
      = .ok none := fold_call_of_probe ty hsource hopen
  rw [compileIn_of_isCall (.call _ ty) hfold, if_pos hmethod]
  unfold sequenceCall
  rw [if_pos ⟨hname, rfl⟩, membershipCall_eq_ok]
  constructor
  · rintro ⟨_, _, q, v, values, hargs, hq, hv, hvalues, rfl⟩
    cases hargs
    rw [hprobe] at hq
    cases hq
    have hfree : source.uncast.accessorFree = true :=
      accessorFree_of_compileIn source v _ hsource hv
    -- the value it has without the casts is the one it compiles to
    obtain ⟨w, hw⟩ := exists_fold_uncast source _ hsource
    rw [compileIn_of_fold_uncast source hfree w hw] at hv
    cases hv
    rw [eq_array_of_elements? hvalues] at hw
    exact ⟨hfree, values, hw, rfl⟩
  · rintro ⟨hfree, values, hvalues, rfl⟩
    exact ⟨source, probe, p, .array values, values, rfl, hprobe,
      compileIn_of_fold_uncast source hfree _ hvalues, rfl, rfl⟩

/-- The test for an element of a constant sequence. It compiles exactly when
no member that is a function stands in the place of a value and the sequence
is one without its casts too, and then has the values which the sequence has
without them, in their order. These are the items of the sequence itself where
there are no such casts, and where they keep the values. -/
theorem compileIn_contains_iff (ty : Ty)
    (hmethod : method.onSequence = true) (hname : method.name = "Contains")
    (hsource : source.fold env.evaluator = .ok (some (.array items)))
    (hprobe : probe.compileIn env scope = .ok p)
    (hopen : probe.fold env.evaluator = .ok none) (c : Criterion) :
    ((Expr.call method [source, probe] ty).compileIn env scope = .ok c
        ↔ source.uncast.accessorFree = true ∧ ∃ values,
          source.uncast.fold env.evaluator = .ok (some (.array values))
            ∧ c = .within p (values.map .literal))
      ∧ (source.uncast = source ∨ source.CastsKeep env.evaluator →
        ((Expr.call method [source, probe] ty).compileIn env scope = .ok c
          ↔ source.uncast.accessorFree = true
            ∧ c = .within p (items.map .literal))) := by
  have htest := compileIn_contains ty hmethod hname hsource hprobe hopen c
  refine ⟨htest, fun hkeep => htest.trans (and_congr_right fun _ => ?_)⟩
  have hitems : source.uncast.fold env.evaluator
      = .ok (some (.array items)) := by
    rcases hkeep with hnone | hkeep
    · rw [hnone, hsource]
    · exact fold_uncast_of_castsKeep source hkeep _ hsource
  constructor
  · rintro ⟨values, hvalues, rfl⟩
    rw [hitems] at hvalues
    cases hvalues
    rfl
  · rintro rfl
    exact ⟨items, hitems, rfl⟩

/-- `new [] { (Object) limit, 1 }.Contains(c.Age)`. -/
theorem compileIn_contains_capturedArray :
    let env : Environment := ⟨.empty, .bare⟩
    let c : Param := ⟨0, "c", .object "Customer"⟩
    let scope := Scope.empty.enter c
    let age := Expr.member (.ofParam c) "Age" .int32
    capturedArray.fold env.evaluator
        = .ok (some (.array [.int 5, .int 1]))
      ∧ capturedArray.uncast.accessorFree = true
      ∧ capturedArray.CastsKeep env.evaluator
      ∧ age.compileIn env scope = .ok (.property "Age")
      ∧ age.fold env.evaluator = .ok none
      ∧ (Expr.call (.enumerable "Contains") [capturedArray, age]
          .bool).compileIn env scope
        = .ok (.within (.property "Age")
            [.literal (.int 5), .literal (.int 1)]) := by
  intro env c scope age
  have hsource : capturedArray.fold env.evaluator
      = .ok (some (.array [.int 5, .int 1])) := rfl
  have hfree : capturedArray.uncast.accessorFree = true := rfl
  have hkeep : capturedArray.CastsKeep env.evaluator := by
    refine ⟨fun _ => ⟨trivial, fun v hv => ?_⟩, trivial, trivial⟩
    cases hv
    rfl
  have hprobe : age.compileIn env scope = .ok (.property "Age") := rfl
  have hopen : age.fold env.evaluator = .ok none := rfl
  refine ⟨hsource, hfree, hkeep, hprobe, hopen, ?_⟩
  exact ((compileIn_contains_iff .bool rfl rfl hsource hprobe hopen _).2
    (.inr hkeep)).mpr ⟨hfree, rfl⟩

/-- Two arrays that evaluate to a sequence which the test does not have: the
length of a text is a function even if the text is constant, so the first
array is none; and a cast that leaves no trace would have converted the
element of the second one. -/
theorem compileIn_contains_differs :
    let env : Environment := ⟨.empty, Host.evaluator ⟨.minValue, .utc, [], []⟩⟩
    let c : Param := ⟨0, "c", .object "Customer"⟩
    let scope := Scope.empty.enter c
    let age := Expr.member (.ofParam c) "Age" .int32
    let length := Expr.member (.ofCaptured "name" (.string "Ada")) "Length"
      .int32
    let lengths := Expr.ofElements .int32 [length]
    let three := Expr.unary .convert (.constant (.int 3) .int64)
      (.nullable .int64)
    let threes := Expr.ofElements (.nullable .int64) [three]
    age.compileIn env scope = .ok (.property "Age")
      ∧ age.fold env.evaluator = .ok none
      ∧ lengths.fold env.evaluator = .ok (some (.array [.int 3]))
      ∧ (Expr.call (.enumerable "Contains") [lengths, age] .bool).compileIn
          env scope = .error (.arrayElement length)
      ∧ threes.fold env.evaluator = .ok (some (.array [.long 3]))
      ∧ (Expr.call (.enumerable "Contains") [threes, age] .bool).compileIn
          env scope = .ok (.within (.property "Age") [.literal (.int 3)]) := by
  intro env c scope age length lengths three threes
  exact ⟨rfl, rfl, rfl, rfl, rfl, rfl⟩

end Expr

end FilterCriteria
