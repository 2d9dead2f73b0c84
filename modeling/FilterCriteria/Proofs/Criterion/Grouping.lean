/-
How chains of `And` and of `Or` are grouped. Their text does not show it, so
there is a normal form in which every chain is nested to the left
(`regroup`). This module says what it is, that it is what regrouping step by
step ends with, and that it has the same text.

# Steps and the normal form

A step rotates one chain once, anywhere in the criterion (`Regroups`). The
normal form is computed from the inside out: `chain` puts an operand in front
of a chain that is nested to the left already. The two are connected both
ways. Every criterion reaches its normal form by steps (`steps_regroup`), a
step does not change the normal form (`regroup_eq_of_regroups`), and where
every chain is flat no step can be made (`not_regroups_of_flat`). So no matter
in which order chains are regrouped, it ends with the normal form
(`regroupsFully_regroup`).

# The same text

Brackets are set by the operator of an operand and not by how it is nested,
and regrouping keeps that operator (`precedence_regroup`). What remains is the
chain itself: its right operand may be a chain without brackets, so the
operands stand in one row (`text_chain`).
-/
import Mathlib.Logic.Relation
import FilterCriteria.Criterion.Text
import FilterCriteria.Proofs.Criterion.Every

namespace FilterCriteria.Criterion

-- ========================================================= normal form

/-- Is the operator one whose chains are written flat? -/
def BinaryOp.isChain : BinaryOp → Bool
  | .and | .or => true
  | _ => false

/-- One chain of a criterion is regrouped once: `a op (b op c)` becomes
`(a op b) op c`, at the root or anywhere below it. -/
inductive Regroups : Criterion → Criterion → Prop where
  | rotate {op : BinaryOp} (hop : op.isChain) (a b c : Criterion) :
    Regroups (.binary op a (.binary op b c)) (.binary op (.binary op a b) c)
  | left {op : BinaryOp} {c d right : Criterion} (h : Regroups c d) :
    Regroups (.binary op c right) (.binary op d right)
  | right {op : BinaryOp} {left c d : Criterion} (h : Regroups c d) :
    Regroups (.binary op left c) (.binary op left d)
  | operand {op : UnaryOp} {c d : Criterion} (h : Regroups c d) :
    Regroups (.unary op c) (.unary op d)
  | argument {f : Function} (before after : List Criterion)
    {c d : Criterion} (h : Regroups c d) :
    Regroups (.function f (before ++ c :: after))
      (.function f (before ++ d :: after))
  | expression {collection : String} {kind : Aggregate} {c d : Criterion}
    {condition : Option Criterion} (h : Regroups c d) :
    Regroups (.aggregate collection kind (some c) condition)
      (.aggregate collection kind (some d) condition)
  | condition {collection : String} {kind : Aggregate}
    {expression : Option Criterion} {c d : Criterion} (h : Regroups c d) :
    Regroups (.aggregate collection kind expression (some c))
      (.aggregate collection kind expression (some d))
  | probe {c d : Criterion} {values : List Criterion} (h : Regroups c d) :
    Regroups (.within c values) (.within d values)
  | value {probe : Criterion} (before after : List Criterion)
    {c d : Criterion} (h : Regroups c d) :
    Regroups (.within probe (before ++ c :: after))
      (.within probe (before ++ d :: after))

/-- Regrouping has been gone on with until nothing was left to regroup. -/
def RegroupsFully (c d : Criterion) : Prop :=
  Relation.ReflTransGen Regroups c d ∧ ∀ e, ¬Regroups d e

/-- A chain with one more operand in front: `a op ((b op c) op d)` becomes
`((a op b) op c) op d`. -/
def chain (op : BinaryOp) (first : Criterion) : Criterion → Criterion
  | .binary inner left right =>
    if inner = op then .binary op (chain op first left) right
    else .binary op first (.binary inner left right)
  | c => .binary op first c
termination_by structural c => c

mutual

/-- Nests every chain to the left, at every level: of `And (a, And (b, c))`
there is `And (And (a, b), c)` left, and the same goes for `Or`. -/
def regroup : Criterion → Criterion
  | .property path => .property path
  | .literal v => .literal v
  | .binary op left right =>
    if op.isChain then chain op left.regroup right.regroup
    else .binary op left.regroup right.regroup
  | .unary op operand => .unary op operand.regroup
  | .function f operands => .function f (regroupList operands)
  | .aggregate collection kind expression condition =>
    .aggregate collection kind (regroupOption expression)
      (regroupOption condition)
  | .within probe values => .within probe.regroup (regroupList values)
termination_by structural c => c

def regroupList : List Criterion → List Criterion
  | [] => []
  | c :: cs => c.regroup :: regroupList cs
termination_by structural cs => cs

def regroupOption : Option Criterion → Option Criterion
  | none => none
  | some c => some c.regroup
termination_by structural c => c

end

/-- The operator at the root. -/
def rootOp? : Criterion → Option BinaryOp
  | .binary op _ _ => some op
  | _ => none

/-- A chain, if it is one, does not go on in its right operand. -/
def Flat : Criterion → Prop
  | .binary op _ right => op.isChain → right.rootOp? ≠ some op
  | _ => True

-- ============================================================== chains

section

variable {op : BinaryOp}

/-- What is no chain of the operator is its last operand. -/
theorem chain_of_ne {first c : Criterion} (h : c.rootOp? ≠ some op) :
    chain op first c = .binary op first c := by
  cases c with
  | binary inner left right =>
      have hne : inner ≠ op := fun heq => h (congrArg some heq)
      rw [chain, if_neg hne]
  | _ => rfl

theorem chain_binary (first left right : Criterion) :
    chain op first (.binary op left right) =
      .binary op (chain op first left) right := by
  rw [chain, if_pos rfl]

/-- A chain is left alone by another operand in front of its first one. -/
theorem chain_chain (first second c : Criterion) :
    chain op first (chain op second c) =
      chain op (chain op first second) c := by
  induction c using induction_children with
  | step c ih =>
      by_cases h : c.rootOp? = some op
      · cases c with
        | binary inner left right =>
            cases Option.some.inj h
            rw [chain_binary, chain_binary, chain_binary,
              ih left (.head _)]
        | _ => contradiction
      · rw [chain_of_ne h, chain_of_ne h, chain_binary]

/-- A chain binds as strongly as its operator, however it is nested. -/
theorem precedence_chain (first c : Criterion) :
    (chain op first c).precedence = op.precedence := by
  by_cases h : c.rootOp? = some op
  · cases c with
    | binary inner left right =>
        cases Option.some.inj h
        rw [chain_binary, precedence]
    | _ => contradiction
  · rw [chain_of_ne h, precedence]

/-- The right operand of a chain may be one without brackets, which is why its
text does not show how it is grouped. -/
theorem rightLevel_of_isChain (h : op.isChain) :
    op.rightLevel = op.precedence.level := by
  cases op <;> first | rfl | contradiction

theorem bracketed_of_le {least : Nat} {c : Criterion} (text : String)
    (h : least ≤ c.precedence.level) : bracketed least c text = text := by
  rw [bracketed, if_neg (Nat.not_lt.mpr h)]

theorem text_binary (left right : Criterion) :
    (binary op left right).text =
      bracketed op.precedence.level left left.text ++ " " ++ op.symbol ++ " "
        ++ bracketed op.rightLevel right right.text := by
  rw [text]

/-- A chain has the text of its operands in a row. -/
theorem text_chain (hop : op.isChain) (first c : Criterion) :
    (chain op first c).text = (binary op first c).text := by
  induction c using induction_children with
  | step c ih =>
      by_cases h : c.rootOp? = some op
      · cases c with
        | binary inner left right =>
            cases Option.some.inj h
            -- neither the chain so far nor the right side needs brackets, so the
            -- two texts differ in how their parts were appended only
            have hchain : op.precedence.level ≤
                (chain op first left).precedence.level :=
              Nat.le_of_eq (by rw [precedence_chain])
            have hinner : op.rightLevel ≤
                (binary op left right).precedence.level :=
              Nat.le_of_eq (by rw [rightLevel_of_isChain hop, precedence])
            rw [chain_binary, text_binary, text_binary first,
              bracketed_of_le _ hchain, bracketed_of_le _ hinner,
              ih left (.head _), text_binary, text_binary left,
              rightLevel_of_isChain hop]
            simp only [String.append_assoc]
        | _ => contradiction
      · rw [chain_of_ne h]

end

-- ========================================================= same text

theorem regroupList_eq_map (cs : List Criterion) :
    regroupList cs = cs.map regroup := by
  induction cs with
  | nil => rfl
  | cons c cs ih => rw [regroupList, ih, List.map_cons]

theorem regroupOption_eq_map (c : Option Criterion) :
    regroupOption c = c.map regroup := by
  cases c <;> rfl

theorem texts_eq_map (cs : List Criterion) : texts cs = cs.map text := by
  induction cs with
  | nil => rfl
  | cons c cs ih => rw [texts, ih, List.map_cons]

/-- Regrouping keeps the number of operands. -/
theorem isInfix_regroup (f : Function) (operands : List Criterion) :
    isInfix f (operands.map regroup) = isInfix f operands := by
  simp [isInfix]

/-- Regrouping keeps the operator at the root, so it changes no brackets. -/
theorem precedence_regroup (c : Criterion) :
    c.regroup.precedence = c.precedence := by
  cases c with
  | binary op left right =>
      rw [regroup, precedence]
      split
      · rw [precedence_chain]
      · rw [precedence]
  | function f operands =>
      rw [regroup, regroupList_eq_map, precedence, precedence,
        isInfix_regroup]
  | _ => rfl

/-- Brackets depend on no more than the precedence. -/
theorem bracketed_regroup (least : Nat) (c : Criterion) (text : String) :
    bracketed least c.regroup text = bracketed least c text := by
  rw [bracketed, bracketed, precedence_regroup]

theorem unaryText_regroup (op : UnaryOp) (c : Criterion) (text : String) :
    unaryText op c.regroup text = unaryText op c text := by
  cases op <;> simp only [unaryText, bracketed_regroup]

/-- Only `Like` with two operands is written between them. -/
theorem isInfix_eq_true {f : Function} {operands : List Criterion}
    (h : isInfix f operands = true) :
    f = .custom likeName ∧ ∃ a b, operands = [a, b] := by
  simp only [isInfix, Bool.and_eq_true, beq_iff_eq] at h
  refine ⟨h.1, ?_⟩
  match operands, h.2 with
  | [a, b], _ => exact ⟨a, b, rfl⟩

/-- A function that is not written between its operands is written in front
of them. -/
theorem text_call {f : Function} {operands : List Criterion}
    (h : isInfix f operands = false) :
    (function f operands).text =
      f.name ++ "(" ++ String.intercalate ", " (operands.map text) ++ ")" := by
  rw [text, texts_eq_map]
  unfold functionText
  rw [h]

theorem text_like (a b : Criterion) :
    (function (.custom likeName) [a, b]).text =
      bracketed comparedLevel a a.text ++ " Like "
        ++ bracketed comparedLevel b b.text := by
  rfl

/-- The values of a test stand between the brackets, none with its own. -/
theorem text_within (probe : Criterion) (values : List Criterion) :
    (within probe values).text = bracketed comparedLevel probe probe.text
      ++ " In (" ++ String.intercalate ", " (values.map text) ++ ")" := by
  rw [text, texts_eq_map]

theorem text_aggregate (collection : String) (kind : Aggregate)
    (expression condition : Option Criterion) :
    (aggregate collection kind expression condition).text =
      aggregateText collection kind expression
        ((expression.map text).getD "") ((condition.map text).getD "") := by
  rw [text]
  cases expression <;> cases condition <;> rfl

/-- The normal form has the text of the criterion. -/
theorem text_regroup (c : Criterion) : c.regroup.text = c.text := by
  induction c using induction_children with
  | step c ih =>
      cases c with
      | property path => rfl
      | literal v => rfl
      | binary op left right =>
          have hleft := ih left (.head _)
          have hright := ih right (.tail _ (.head _))
          have hparts : (binary op left.regroup right.regroup).text =
              (binary op left right).text := by
            rw [text_binary, text_binary, bracketed_regroup,
              bracketed_regroup, hleft, hright]
          -- a chain is written the same with its first operand in front
          rw [regroup]
          split
          · rename_i hop
            rw [text_chain hop, hparts]
          · exact hparts
      | unary op operand =>
          rw [regroup, text, text, unaryText_regroup, ih operand (.head _)]
      | function f operands =>
          rw [regroup, regroupList_eq_map]
          cases h : isInfix f operands with
          | false =>
              rw [text_call h, text_call (isInfix_regroup f operands ▸ h),
                List.map_map]
              exact congrArg (f.name ++ "(" ++ String.intercalate ", " · ++ ")")
                (List.map_congr_left ih)
          | true =>
              obtain ⟨rfl, a, b, rfl⟩ := isInfix_eq_true h
              show (function (.custom likeName) [a.regroup, b.regroup]).text = _
              rw [text_like, text_like, bracketed_regroup, bracketed_regroup,
                ih a (.head _), ih b (.tail _ (.head _))]
      | aggregate collection kind expression condition =>
          have hexpression : (expression.map regroup).map text =
              expression.map text := by
            rw [Option.map_map]
            exact Option.map_congr fun d hd =>
              ih d (List.mem_append_left _ (Option.mem_toList.mpr hd))
          have hcondition : (condition.map regroup).map text =
              condition.map text := by
            rw [Option.map_map]
            exact Option.map_congr fun d hd =>
              ih d (List.mem_append_right _ (Option.mem_toList.mpr hd))
          rw [regroup, regroupOption_eq_map, regroupOption_eq_map,
            text_aggregate, text_aggregate, hexpression, hcondition]
          simp only [aggregateText, Option.isNone_map]
      | within probe values =>
          rw [regroup, regroupList_eq_map, text_within, text_within,
            bracketed_regroup, ih probe (.head _), List.map_map]
          exact congrArg (_ ++ " In (" ++ String.intercalate ", " · ++ ")")
            (List.map_congr_left fun d hd => ih d (.tail _ hd))

-- ====================================================== left nesting

section

variable {p : Criterion → Prop}

/-- An operand more in front keeps a chain flat, and keeps any condition that
all operators satisfy. -/
theorem every_chain {op : BinaryOp}
    (hbinary : ∀ left right, p (.binary op left right))
    {first c : Criterion} (hfirst : first.Every fun d => p d ∧ d.Flat)
    (hc : c.Every fun d => p d ∧ d.Flat) :
    (chain op first c).Every fun d => p d ∧ d.Flat := by
  induction hc with
  | @node c here below ih =>
      by_cases h : c.rootOp? = some op
      · cases c with
        | binary inner left right =>
            cases Option.some.inj h
            rw [chain_binary]
            refine .node ⟨hbinary _ _, here.2⟩ fun d hd => ?_
            rcases List.mem_cons.mp hd with rfl | hd
            · exact ih left (.head _)
            · exact below d (.tail _ hd)
        | _ => contradiction
      · rw [chain_of_ne h]
        refine .node ⟨hbinary _ _, fun _ => h⟩ fun d hd => ?_
        rcases List.mem_cons.mp hd with rfl | hd
        · exact hfirst
        · rw [List.mem_singleton.mp hd]
          exact .node here below

/-- After regrouping no chain goes on in a right operand, and a condition
on nodes that does not look into their operands is kept. -/
theorem every_regroup (hbinary : ∀ op left right, p (.binary op left right))
    (hp : ∀ c, p c → p c.regroup) {c : Criterion} (h : c.Every p) :
    c.regroup.Every fun d => p d ∧ d.Flat := by
  induction h with
  | @node c here below ih =>
      have hroot := hp c here
      cases c with
      | property path => exact .node ⟨hroot, trivial⟩ fun d hd => nomatch hd
      | literal v => exact .node ⟨hroot, trivial⟩ fun d hd => nomatch hd
      | binary op left right =>
          have hleft := ih left (.head _)
          have hright := ih right (.tail _ (.head _))
          rw [regroup]
          split
          · -- a chain is the one node that is rebuilt and not only mapped
            exact every_chain (hbinary op) hleft hright
          · rename_i hop
            refine .node ⟨hbinary _ _ _, fun h => absurd h hop⟩ fun d hd => ?_
            rcases List.mem_cons.mp hd with rfl | hd
            · exact hleft
            · rw [List.mem_singleton.mp hd]
              exact hright
      | unary op operand =>
          refine .node ⟨hroot, trivial⟩ fun d hd => ?_
          rw [List.mem_singleton.mp hd]
          exact ih operand (.head _)
      | function f operands =>
          refine .node ⟨hroot, trivial⟩ fun d hd => ?_
          rw [regroup, regroupList_eq_map] at hd
          obtain ⟨e, he, rfl⟩ := List.mem_map.mp hd
          exact ih e he
      | aggregate collection kind expression condition =>
          refine .node ⟨hroot, trivial⟩ fun d hd => ?_
          rw [regroup, regroupOption_eq_map, regroupOption_eq_map] at hd
          rcases List.mem_append.mp hd with hd | hd
          · obtain ⟨e, he, rfl⟩ :=
              Option.map_eq_some_iff.mp (Option.mem_toList.mp hd)
            exact ih e (List.mem_append_left _ (Option.mem_toList.mpr he))
          · obtain ⟨e, he, rfl⟩ :=
              Option.map_eq_some_iff.mp (Option.mem_toList.mp hd)
            exact ih e (List.mem_append_right _ (Option.mem_toList.mpr he))
      | within probe values =>
          refine .node ⟨hroot, trivial⟩ fun d hd => ?_
          rw [regroup, regroupList_eq_map] at hd
          rcases List.mem_cons.mp hd with rfl | hd
          · exact ih probe (.head _)
          · obtain ⟨e, he, rfl⟩ := List.mem_map.mp hd
            exact ih e (.tail _ he)

end

-- ======================================================== step by step

/-- A step leads to no other normal form. -/
theorem regroup_eq_of_regroups {c d : Criterion} (h : Regroups c d) :
    c.regroup = d.regroup := by
  induction h with
  | rotate hop a b c => simp only [regroup, hop, if_true, chain_chain]
  | left _ ih => simp only [regroup, ih]
  | right _ ih => simp only [regroup, ih]
  | operand _ ih => simp only [regroup, ih]
  | argument before after _ ih =>
      simp only [regroup, regroupList_eq_map, List.map_append, List.map_cons,
        ih]
  | expression _ ih => simp only [regroup, regroupOption, ih]
  | condition _ ih => simp only [regroup, regroupOption, ih]
  | probe _ ih => simp only [regroup, ih]
  | value before after _ ih =>
      simp only [regroup, regroupList_eq_map, List.map_append, List.map_cons,
        ih]

open Relation (ReflTransGen)

/-- Criteria that are regroupings of each other have one normal form. -/
theorem regroup_eq_of_steps {c d : Criterion}
    (h : ReflTransGen Regroups c d) : c.regroup = d.regroup := by
  induction h with
  | refl => rfl
  | tail _ hstep ih => rw [ih, regroup_eq_of_regroups hstep]

/-- Putting an operand in front is done by regroupings at the root, one for
each operator of the chain. -/
theorem steps_chain {op : BinaryOp} (hop : op.isChain) (first c : Criterion) :
    ReflTransGen Regroups (.binary op first c) (chain op first c) := by
  induction c using induction_children with
  | step c ih =>
      by_cases h : c.rootOp? = some op
      · cases c with
        | binary inner left right =>
            cases Option.some.inj h
            have hlift := (ih left (.head _)).lift (binary op · right)
              fun _ _ => Regroups.left
            rw [chain_binary]
            exact .head (.rotate hop first left right) hlift
        | _ => contradiction
      · rw [chain_of_ne h]

/-- The items of a list are regrouped one after the other. -/
theorem steps_list (build : List Criterion → Criterion)
    (hbuild : ∀ before after {c d}, Regroups c d →
      Regroups (build (before ++ c :: after)) (build (before ++ d :: after)))
    {cs : List Criterion}
    (h : ∀ c ∈ cs, ReflTransGen Regroups c c.regroup)
    (before : List Criterion) :
    ReflTransGen Regroups (build (before ++ cs))
      (build (before ++ cs.map regroup)) := by
  induction cs generalizing before with
  | nil => exact .refl
  | cons c cs ih =>
      have hhead := (h c (.head _)).lift (fun d => build (before ++ d :: cs))
        fun _ _ => hbuild before cs
      have htail := ih (fun d hd => h d (.tail _ hd)) (before ++ [c.regroup])
      rw [List.append_assoc, List.append_assoc] at htail
      exact hhead.trans htail

/-- A criterion that may be missing is regrouped in its place. -/
theorem steps_option (build : Option Criterion → Criterion)
    (hbuild : ∀ c d, Regroups c d →
      Regroups (build (some c)) (build (some d)))
    {c : Option Criterion}
    (h : ∀ d ∈ c, ReflTransGen Regroups d d.regroup) :
    ReflTransGen Regroups (build c) (build (c.map regroup)) := by
  cases c with
  | none => exact .refl
  | some c => exact (h c rfl).lift (fun d => build (some d)) hbuild

/-- The normal form is reached step by step: first the operands, from the left
to the right, and then the root. -/
theorem steps_regroup (c : Criterion) :
    ReflTransGen Regroups c c.regroup := by
  induction c using induction_children with
  | step c ih =>
      cases c with
      | property path => exact .refl
      | literal v => exact .refl
      | binary op left right =>
          have hleft := (ih left (.head _)).lift (binary op · right)
            fun _ _ => Regroups.left
          have hright := (ih right (.tail _ (.head _))).lift
            (binary op left.regroup) fun _ _ => Regroups.right
          rw [regroup]
          split
          · rename_i hop
            exact (hleft.trans hright).trans (steps_chain hop _ _)
          · exact hleft.trans hright
      | unary op operand =>
          exact (ih operand (.head _)).lift (unary op) fun _ _ =>
            Regroups.operand
      | function f operands =>
          rw [regroup, regroupList_eq_map]
          exact steps_list (function f) Regroups.argument ih []
      | aggregate collection kind expression condition =>
          have hexpression :=
            steps_option (aggregate collection kind · condition)
              (fun _ _ => Regroups.expression) fun d hd =>
                ih d (List.mem_append_left _ (Option.mem_toList.mpr hd))
          have hcondition :=
            steps_option (aggregate collection kind (expression.map regroup))
              (fun _ _ => Regroups.condition) fun d hd =>
                ih d (List.mem_append_right _ (Option.mem_toList.mpr hd))
          rw [regroup, regroupOption_eq_map, regroupOption_eq_map]
          exact hexpression.trans hcondition
      | within probe values =>
          have hprobe := (ih probe (.head _)).lift (within · values)
            fun _ _ => Regroups.probe
          rw [regroup, regroupList_eq_map]
          exact hprobe.trans
            (steps_list (within probe.regroup) Regroups.value
              (fun d hd => ih d (.tail _ hd)) [])

/-- In a normal form there is nothing to regroup. -/
theorem not_regroups_of_flat {c : Criterion} (h : c.Every Flat)
    (d : Criterion) : ¬Regroups c d := by
  intro hstep
  induction hstep with
  | rotate hop a b c => exact h.here hop rfl
  | left _ ih => exact ih (h.child _ (.head _))
  | right _ ih => exact ih (h.child _ (.tail _ (.head _)))
  | operand _ ih => exact ih (h.child _ (.head _))
  | argument before after _ ih =>
      exact ih (h.child _ (List.mem_append_right _ (.head _)))
  | expression _ ih => exact ih (h.child _ (.head _))
  | condition _ ih =>
      exact ih (h.child _ (List.mem_append_right _ (.head _)))
  | probe _ ih => exact ih (h.child _ (.head _))
  | value before after _ ih =>
      exact ih (h.child _ (.tail _ (List.mem_append_right _ (.head _))))

/-- Regrouping ends with the normal form. -/
theorem regroupsFully_regroup (c : Criterion) :
    RegroupsFully c c.regroup := by
  have hflat : c.regroup.Every fun d => True ∧ d.Flat :=
    every_regroup (fun _ _ _ => trivial) (fun _ _ => trivial) (every_true c)
  exact ⟨steps_regroup c,
    not_regroups_of_flat (hflat.imp fun _ h => h.2)⟩

end FilterCriteria.Criterion
