/-
What the interchange format shows of values and criteria. It keeps all but
one kind of value exactly: a leap second inside a minute is written as the
next second (`DateTime.shown`), at whatever depth of a value and wherever in
a criterion it stands.

The result is the tree as it is shown, a function of the tree
(`Value.shown`, `Criterion.shown`). It keeps everything but these points in
time, so it is the tree itself exactly when there are none of them, that is,
when every leap second in the tree ends a minute
(`Value.shown_eq_self_iff`, `Criterion.shown_eq_self_iff`).
-/
import FilterCriteria.Proofs.Criterion.Every
import FilterCriteria.Proofs.Time.Iso

namespace FilterCriteria

/-- A list stays as it is exactly when each of its elements does. -/
theorem map_eq_self_iff {α : Type} {f : α → α} {as : List α} :
    as.map f = as ↔ ∀ a ∈ as, f a = a := by
  have hid : as.map f = as ↔ as.map f = as.map id := by rw [List.map_id]
  exact hid.trans List.map_inj_left

-- ============================================================== values

namespace Value

mutual

/-- The value with every point in time in it as it is shown. -/
def shown : Value → Value
  | .dateTime t => .dateTime t.shown
  | .array items => .array (shownItems items)
  | .object fields => .object (shownFields fields)
  | v => v
termination_by structural v => v

def shownItems : List Value → List Value
  | [] => []
  | v :: rest => v.shown :: shownItems rest
termination_by structural vs => vs

def shownFields : List (String × Value) → List (String × Value)
  | [] => []
  | (name, v) :: rest => (name, v.shown) :: shownFields rest
termination_by structural fs => fs

end

/-- The items of an array are shown each for itself. -/
theorem shown_array (items : List Value) :
    (array items).shown = .array (items.map shown) := by
  have hitems : ∀ items, shownItems items = items.map shown := by
    intro items
    induction items with
    | nil => rfl
    | cons v items ih => rw [shownItems, ih, List.map_cons]
  rw [shown, hitems]

/-- The fields of an object are shown under the names they have. -/
theorem shown_object (fields : List (String × Value)) :
    (object fields).shown = .object (fields.map fun f => (f.1, f.2.shown)) := by
  have hfields : ∀ fields,
      shownFields fields = fields.map fun f => (f.1, f.2.shown) := by
    intro fields
    induction fields with
    | nil => rfl
    | cons f fields ih => rw [shownFields, ih, List.map_cons]
  rw [shown, hfields]

/-- The value itself, leaving aside what is inside it, is no leap second
inside a minute. -/
def LeapEndsMinute : Value → Prop
  | .dateTime t => t.LeapEndsMinute
  | _ => True

/-- A value is shown as it is exactly when every leap second in it ends a
minute. The induction is over the values inside it, for which any condition
on all of them will do. -/
theorem shown_eq_self_iff {p : Value → Prop} {v : Value} (h : v.Every p) :
    v.shown = v ↔ v.Every LeapEndsMinute := by
  induction h with
  | @node v here below ih =>
      rw [every_iff]
      cases v with
      | dateTime t =>
          rw [shown, dateTime.injEq, DateTime.shown_eq_self_iff]
          simp [LeapEndsMinute, parts]
      | array items =>
          rw [shown_array, array.injEq, map_eq_self_iff]
          simp only [LeapEndsMinute, true_and]
          exact forall₂_congr ih
      | object fields =>
          rw [shown_object, object.injEq, map_eq_self_iff]
          simp only [LeapEndsMinute, true_and, parts, List.forall_mem_map,
            Prod.ext_iff]
          exact forall₂_congr fun f hf => ih f.2 (List.mem_map_of_mem hf)
      | _ => simp [shown, LeapEndsMinute, parts]

end Value

-- ============================================================ criteria

namespace Criterion

mutual

/-- The criterion with every point in time in its literals as it is
shown. -/
def shown : Criterion → Criterion
  | .property path => .property path
  | .literal v => .literal v.shown
  | .binary op left right => .binary op left.shown right.shown
  | .unary op operand => .unary op operand.shown
  | .function f operands => .function f (shownList operands)
  | .aggregate collection kind expression condition =>
    .aggregate collection kind (shownOption expression) (shownOption condition)
  | .within probe values => .within probe.shown (shownList values)
termination_by structural c => c

def shownList : List Criterion → List Criterion
  | [] => []
  | c :: rest => c.shown :: shownList rest
termination_by structural cs => cs

def shownOption : Option Criterion → Option Criterion
  | none => none
  | some c => some c.shown
termination_by structural c => c

end

theorem shownList_eq_map (cs : List Criterion) :
    shownList cs = cs.map shown := by
  induction cs with
  | nil => rfl
  | cons c cs ih => rw [shownList, ih, List.map_cons]

theorem shownOption_eq_map (c : Option Criterion) :
    shownOption c = c.map shown := by
  cases c with
  | none => rfl
  | some c => rw [shownOption, Option.map_some]

/-- Every leap second in the literals of the criterion ends a minute. -/
def LeapsEndMinutes (c : Criterion) : Prop :=
  c.Every fun
    | .literal v => v.Every Value.LeapEndsMinute
    | _ => True

/-- A criterion is shown as it is exactly when the literals in it are. -/
theorem shown_eq_self_iff {p : Value → Prop} {c : Criterion}
    (h : c.Every fun
      | .literal v => v.Every p
      | _ => True) :
    c.shown = c ↔ c.LeapsEndMinutes := by
  unfold LeapsEndMinutes
  induction h with
  | @node c here below ih =>
      rw [every_iff]
      have hchildren : (∀ d ∈ c.children, d.shown = d) ↔ _ :=
        forall₂_congr ih
      cases c with
      | property path => simp [shown, children]
      | literal v =>
          rw [shown, literal.injEq, Value.shown_eq_self_iff here]
          simp [children]
      | binary op left right =>
          rw [← hchildren]
          simp [shown, children]
      | unary op operand =>
          rw [← hchildren]
          simp [shown, children]
      | function f operands =>
          rw [← hchildren, shown, shownList_eq_map]
          simp [children, map_eq_self_iff]
      | aggregate collection kind expression condition =>
          rw [← hchildren, shown, shownOption_eq_map, shownOption_eq_map]
          cases expression <;> cases condition <;> simp [children]
      | within probe values =>
          rw [← hchildren, shown, shownList_eq_map]
          simp [children, map_eq_self_iff]

end Criterion

end FilterCriteria
