/-
What reading typed data out of JSON values gives for values that were
written from such data: the fields of a record in their order, the items of
an array, integers. Also how deep a value is nested, which is the room that
reading it takes.

A record is an object whose members have different names, so a lookup by name
finds the one value there is (`membersNamed_of_mem`), and all fields together
are read in the order in which they are asked for (`fields?_ofMembers`). The
names are literal texts at each use, and that they differ is decided there.
-/
import FilterCriteria.Json.Decode
import FilterCriteria.Proofs.Json.RoundTrip

namespace FilterCriteria.Json

-- ============================================================= nesting

mutual

/-- The number of arrays and objects around the innermost value. -/
def depth : Json → Nat
  | .array items => depthItems items + 1
  | .object members => depthMembers members + 1
  | _ => 0
termination_by structural j => j

def depthItems : List Json → Nat
  | [] => 0
  | j :: rest => max j.depth (depthItems rest)
termination_by structural js => js

def depthMembers : List (Option String × Json) → Nat
  | [] => 0
  | (_, j) :: rest => max j.depth (depthMembers rest)
termination_by structural ms => ms

end

/-- An item is nested less deep than its array. -/
theorem depth_lt_array {j : Json} {items : List Json} (h : j ∈ items) :
    j.depth < (array items).depth := by
  rw [depth]
  induction h with
  | head rest => rw [depthItems]; omega
  | tail k _ ih => rw [depthItems]; omega

/-- The value of a member is nested less deep than its object. -/
theorem depth_lt_object {m : Option String × Json}
    {members : List (Option String × Json)} (h : m ∈ members) :
    m.2.depth < (object members).depth := by
  rw [depth]
  induction h with
  | head rest => rw [depthMembers]; omega
  | tail k _ ih => rw [depthMembers]; omega

/-- A tag takes one level. -/
theorem depth_tagged (name : String) (j : Json) :
    (tagged name j).depth = j.depth + 1 := by
  simp only [tagged, depth, depthMembers, Nat.max_zero]

theorem depth_lt_ofMembers {m : String × Json}
    {members : List (String × Json)} (h : m ∈ members) :
    m.2.depth < (ofMembers members).depth :=
  depth_lt_object (List.mem_map_of_mem (f := fun m => (some m.1, m.2)) h)

-- ============================================================= records

/-- What is written item by item is read item by item. -/
theorem mapM_map_eq_some {α β γ : Type} {write : α → β}
    {read? : β → Option γ} {result : α → γ} {as : List α}
    (h : ∀ a ∈ as, read? (write a) = some (result a)) :
    (as.map write).mapM read? = some (as.map result) := by
  induction as with
  | nil => rfl
  | cons a as ih =>
      simp only [List.map_cons, List.mapM_cons, h a (.head _),
        ih fun b hb => h b (.tail _ hb), Option.bind_eq_bind,
        Option.bind_some, Option.pure_def]

theorem membersNamed_eq_nil {name : String} {members : List (String × Json)}
    (h : name ∉ members.map Prod.fst) :
    membersNamed name (members.map fun m => (some m.1, m.2)) = [] := by
  simp only [membersNamed, List.filterMap_map, List.filterMap_eq_nil_iff]
  intro m hm
  have hne : m.1 ≠ name := fun heq => h (heq ▸ List.mem_map_of_mem hm)
  simp [hne]

/-- A name that no other member has stands for one value. -/
theorem membersNamed_of_mem {members : List (String × Json)}
    (hnodup : (members.map Prod.fst).Nodup) {m : String × Json}
    (hm : m ∈ members) :
    membersNamed m.1 (members.map fun m => (some m.1, m.2)) = [m.2] := by
  induction members with
  | nil => contradiction
  | cons k members ih =>
      rw [List.map_cons, List.nodup_cons] at hnodup
      have hstep : membersNamed m.1 ((k :: members).map fun m =>
          (some m.1, m.2)) = if k.1 = m.1
            then k.2 :: membersNamed m.1 (members.map fun m => (some m.1, m.2))
            else membersNamed m.1 (members.map fun m => (some m.1, m.2)) := by
        by_cases h : k.1 = m.1 <;> simp [membersNamed, h]
      rw [hstep]
      rcases List.mem_cons.mp hm with rfl | hm
      · rw [if_pos rfl, membersNamed_eq_nil hnodup.1]
      · have hne : k.1 ≠ m.1 := fun heq =>
          hnodup.1 (heq ▸ List.mem_map_of_mem hm)
        rw [if_neg hne, ih hnodup.2 hm]

/-- A record is read field by field as it was written. -/
theorem fields?_ofMembers {members : List (String × Json)}
    {names : List String} (hnames : members.map Prod.fst = names)
    (h : names.Nodup) :
    (ofMembers members).fields? names =
      some (members.map fun m => some m.2) := by
  subst hnames
  have hall : (members.map fun m => (some m.1, m.2)).all
      (fun m => m.1.isSome) = true := by
    simp
  simp only [ofMembers, fields?, hall, if_true]
  refine mapM_map_eq_some fun m hm => ?_
  rw [membersNamed_of_mem h hm]

-- ============================================================= scalars

theorem text?_ofString (s : String) : (ofString s).text? = some s := rfl

/-- A name is read at any depth. -/
theorem named?_ofString {α : Type} (ofName? : String → Option α)
    (room : Nat) (s : String) :
    (ofString s).named? ofName? room = ofName? s := by
  cases room <;> rfl

/-- A number of 64 bits is read from its digits and its sign. -/
theorem toInt?_ofInt {n : Int} (hmin : -2 ^ 63 ≤ n) (hmax : n < 2 ^ 63) :
    Number.toInt? ⟨n < 0, decimalDigits n.natAbs, [], none⟩ = some n := by
  unfold Number.toInt? Number.maxSignificand
  simp only [ofDigits_decimalDigits, List.isEmpty_nil, Bool.not_true,
    Option.isSome_none, Bool.or_self, Bool.false_eq_true, if_false,
    decide_eq_true_eq]
  by_cases hneg : n < 0
  · rw [if_pos hneg, if_pos (by omega)]
    simp only [Option.some.injEq]
    omega
  · rw [if_neg hneg, if_pos (by omega)]
    simp only [Option.some.injEq]
    omega

/-- A number of 32 bits is read as one. -/
theorem int32?_ofInt (n : Int32) : (ofInt n.toInt).int32? = some n := by
  have hmin := n.le_toInt
  have hmax := n.toInt_lt
  simp only [ofInt, int32?, toInt?_ofInt (show -2 ^ 63 ≤ n.toInt by omega)
    (by omega), Option.bind_eq_bind, Option.bind_some, FilterCriteria.int32?]
  rw [if_pos ⟨hmin, hmax⟩, Int32.ofInt_toInt]

theorem int64?_ofInt (n : Int64) : (ofInt n.toInt).int64? = some n := by
  have hmin := n.le_toInt
  have hmax := n.toInt_lt
  simp only [ofInt, int64?, toInt?_ofInt hmin hmax, Option.bind_eq_bind,
    Option.bind_some, FilterCriteria.int64?]
  rw [if_pos ⟨hmin, hmax⟩, Int64.ofInt_toInt]

/-- The digits of an integer have no zero in front. -/
theorem wellFormed_ofInt (n : Int) : WellFormed (ofInt n) :=
  .number ⟨decimalDigits_ne_nil _, fun _ h => isDigit_of_mem_decimalDigits h,
    fun _ h => decimalDigits_no_leading_zero h, fun _ h => by simp at h⟩

theorem wellFormed_tagged (name : String) {j : Json} (h : WellFormed j) :
    WellFormed (tagged name j) := by
  refine .object fun m hm => ?_
  rw [List.mem_singleton.mp hm]
  exact h

theorem wellFormed_ofMembers {members : List (String × Json)}
    (h : ∀ m ∈ members, WellFormed m.2) : WellFormed (ofMembers members) := by
  refine .object fun m hm => ?_
  obtain ⟨k, hk, rfl⟩ := List.mem_map.mp hm
  exact h k hk

end FilterCriteria.Json
