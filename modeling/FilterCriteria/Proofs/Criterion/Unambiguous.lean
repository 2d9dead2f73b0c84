/-
The text of a criterion tells everything about it but how its chains of
`And` and of `Or` are grouped. The reader gives every legible criterion back
from its text, with its chains nested to the left. So two criteria with one
text have one normal form.

# What is legible

A text can only tell what is written in it. A name between brackets must not
have the bracket in it that ends it, a custom function has to have a name that
is a word and no built-in function has, and the values are those the reader
knows (`Legible`). Dates, objects and numbers with a fraction are written in
ways that more than one value has.

# The proof

That a flat criterion is read back is an induction over its nodes
(`reads_of_legible`), with the lemma of each kind of node from the modules of
the reader. The normal form of a legible criterion is flat and legible, and
has the same text, so the reader makes the normal form of any legible
criterion from its text (`criterion_text`), and the main statement
(`text_eq_iff_regroupsFully`) follows.
-/
import FilterCriteria.Proofs.Criterion.Reader.Atoms

namespace FilterCriteria.Criterion

open Reader

/-- What a node has to be like for its text to tell what it is: a name may
not hold the bracket that ends it, and a custom function has to have a name
that is a word and not that of another function. -/
def Legible : Criterion → Prop
  | .property path => ']' ∉ path.toList
  | .literal v => v.Every Value.Legible
  | .function (.custom name) _ =>
    isWord name.toList = true ∧ Builtin.ofName? name = none
  | .aggregate collection _ _ _ => ']' ∉ collection.toList
  | _ => True

-- ============================================================ criteria

/-- Every legible criterion whose chains are nested to the left is read
back, by induction over its nodes. -/
theorem reads_of_legible {c : Criterion}
    (h : c.Every fun d => d.Legible ∧ d.Flat) : Reads c := by
  induction h with
  | @node c here below ih =>
      cases c with
      | property path => exact reads_property here.1
      | literal v => exact reads_literal here.1
      | binary op left right =>
          exact reads_binary (ih left (.head _)) (ih right (.tail _ (.head _)))
            here.2
      | unary op operand =>
          have hoperand := ih operand (.head _)
          cases op with
          | isNull => exact reads_isNull hoperand
          | _ => exact reads_sign (by decide) hoperand
      | function f operands =>
          cases hcall : isInfix f operands with
          | true =>
              obtain ⟨rfl, a, b, rfl⟩ := isInfix_eq_true hcall
              exact reads_like (ih a (.head _)) (ih b (.tail _ (.head _)))
          | false =>
              cases f with
              | builtin f =>
                  exact reads_call hcall (isWord_builtin f)
                    (functionNamed_builtin f) ih
              | custom name =>
                  exact reads_call hcall here.1.1
                    (functionNamed_custom here.1.2) ih
      | aggregate collection kind expression condition =>
          refine reads_aggregate here.1 (fun d hd => ?_) fun d hd => ?_
          · exact ih d (List.mem_append_left _ (Option.mem_toList.mpr hd))
          · exact ih d (List.mem_append_right _ (Option.mem_toList.mpr hd))
      | within probe values =>
          exact reads_within (ih probe (.head _)) fun d hd => ih d (.tail _ hd)

-- ============================================================= one text

/-- Operators are legible by themselves, so all the nodes of a chain are. -/
theorem legible_chain (op : BinaryOp) (first c : Criterion) :
    (chain op first c).Legible := by
  by_cases h : c.rootOp? = some op
  · cases c with
    | binary inner left right =>
        cases Option.some.inj h
        rw [chain_binary]
        trivial
    | _ => contradiction
  · rw [chain_of_ne h]
    trivial

/-- What makes a node legible is not in its operands. -/
theorem legible_regroup (c : Criterion) (h : c.Legible) :
    c.regroup.Legible := by
  cases c with
  | binary op left right =>
      rw [regroup]
      split
      · exact legible_chain _ _ _
      · trivial
  | function f operands => cases f <;> exact h
  | _ => exact h

/-- Reading the text of a legible criterion gives its normal form. -/
theorem criterion_text {c : Criterion} (h : c.Every Legible) :
    criterion 0 c.text.toList = some (c.regroup, []) := by
  have hnormal := every_regroup (fun _ _ _ => trivial) legible_regroup h
  have hread := reads_of_legible hnormal 0 [] (Nat.zero_le _)
    (follows_of_stops _ stops_nil stops_nil)
  rw [List.append_nil, text_regroup] at hread
  rw [hread, tails_of_stops stops_nil]

/-- Regrouping does not change the text. -/
theorem text_eq_of_regroupsFully {c d : Criterion} (h : RegroupsFully c d) :
    c.text = d.text := by
  rw [← text_regroup c, regroup_eq_of_steps h.1, text_regroup d]

/-- The text of a legible criterion tells everything about it but how its
chains of `And` and of `Or` are grouped. -/
theorem text_eq_iff_regroupsFully {a b : Criterion} (ha : a.Every Legible)
    (hb : b.Every Legible) :
    a.text = b.text ↔ ∃ c, RegroupsFully a c ∧ RegroupsFully b c := by
  constructor
  · intro htext
    have hread := criterion_text ha
    rw [htext, criterion_text hb] at hread
    have hregroup : b.regroup = a.regroup :=
      (Prod.mk.inj (Option.some.inj hread)).1
    exact ⟨a.regroup, regroupsFully_regroup a,
      hregroup ▸ regroupsFully_regroup b⟩
  · rintro ⟨c, hac, hbc⟩
    rw [text_eq_of_regroupsFully hac, text_eq_of_regroupsFully hbc]

/-- `[Total] > -5`. -/
def large : Criterion :=
  .binary .greater (.property "Total") (.literal (.int (-5)))

/-- `[Name] Like 'it''s'`. -/
def alike : Criterion :=
  .custom likeName [.property "Name", .literal (.string "it's")]

/-- `Not [Orders][[Paid]]`. -/
def unpaid : Criterion :=
  .unary .not (.aggregate "Orders" .any none (some (.property "Paid")))

theorem legible_parts :
    ∀ c ∈ [large, alike, unpaid], c.Every Legible := by
  have hproperty : ∀ path, ']' ∉ path.toList →
      (property path).Every Legible := fun path h => every_leaf h rfl
  have hliteral : ∀ v : Value, v.Legible → v.parts = [] →
      (literal v).Every Legible := fun v h hparts =>
    every_leaf (Value.every_leaf h hparts) rfl
  have hlarge : large.Every Legible :=
    .node trivial (List.forall_mem_cons.mpr ⟨hproperty _ (by decide),
      List.forall_mem_singleton.mpr (hliteral _ trivial rfl)⟩)
  have hname : isWord likeName.toList = true ∧
      Builtin.ofName? likeName = none := by
    decide +kernel
  have halike : alike.Every Legible :=
    .node hname (List.forall_mem_cons.mpr ⟨hproperty _ (by decide),
      List.forall_mem_singleton.mpr (hliteral _ trivial rfl)⟩)
  have hcollection : ']' ∉ "Orders".toList := by decide
  have hunpaid : unpaid.Every Legible :=
    .node trivial (List.forall_mem_singleton.mpr (.node hcollection
      (List.forall_mem_singleton.mpr (hproperty _ (by decide)))))
  simp [hlarge, halike, hunpaid]

theorem every_and {a b : Criterion} (ha : a.Every Legible)
    (hb : b.Every Legible) : (binary .and a b).Every Legible :=
  .node trivial (List.forall_mem_cons.mpr
    ⟨ha, List.forall_mem_singleton.mpr hb⟩)

def groupedRight : Criterion :=
  .binary .and large (.binary .and alike unpaid)

def groupedLeft : Criterion :=
  .binary .and (.binary .and large alike) unpaid

/-- Two groupings of one chain have the text of the chain. -/
theorem text_groupedRight :
    groupedRight.Every Legible ∧ groupedLeft.Every Legible ∧
      groupedRight.text = groupedLeft.text := by
  have hlarge := legible_parts large (.head _)
  have halike := legible_parts alike (.tail _ (.head _))
  have hunpaid := legible_parts unpaid (.tail _ (.tail _ (.head _)))
  have hright : groupedRight.Every Legible :=
    every_and hlarge (every_and halike hunpaid)
  have hleft : groupedLeft.Every Legible :=
    every_and (every_and hlarge halike) hunpaid
  exact ⟨hright, hleft, (text_eq_iff_regroupsFully hright hleft).mpr
    ⟨_, regroupsFully_regroup groupedRight, regroupsFully_regroup groupedLeft⟩⟩

end FilterCriteria.Criterion
