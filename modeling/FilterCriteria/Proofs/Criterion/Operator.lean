/-
The names of operators, aggregates and functions tell them apart, so that
looking one up by its name finds it. Each family has a list of all its
members, and a lookup takes the first one with the name; it is the one that
was meant if it is in the list and no two names are equal (`find?_name`), which
is checked for each list by going through it.
-/
import FilterCriteria.Criterion.Operator

namespace FilterCriteria.Criterion

/-- In a table whose names are all different, an entry is found by its
name. -/
theorem find?_name {α : Type} {name : α → String} {table : List α}
    (hnodup : (table.map name).Nodup) {a : α} (ha : a ∈ table) :
    table.find? (name · == name a) = some a := by
  induction table with
  | nil => contradiction
  | cons b table ih =>
      rw [List.map_cons, List.nodup_cons] at hnodup
      rcases List.mem_cons.mp ha with rfl | ha
      · rw [List.find?_cons_of_pos (by simp)]
      · have hne : name b ≠ name a := fun h =>
          hnodup.1 (h ▸ List.mem_map_of_mem ha)
        rw [List.find?_cons_of_neg (by simpa using hne), ih hnodup.2 ha]

theorem BinaryOp.mem_all (op : BinaryOp) : op ∈ BinaryOp.all := by
  cases op <;> decide

/-- An operator is found by its name. -/
theorem BinaryOp.ofName?_name (op : BinaryOp) :
    BinaryOp.ofName? op.name = some op :=
  find?_name (by decide) (mem_all op)

/-- An operator with a single operand is found by its name. -/
theorem UnaryOp.ofName?_name (op : UnaryOp) :
    UnaryOp.ofName? op.name = some op :=
  find?_name (by decide) (by cases op <;> decide)

theorem Aggregate.mem_all (kind : Aggregate) : kind ∈ Aggregate.all := by
  cases kind <;> decide

/-- A kind of aggregate is found by its name. -/
theorem Aggregate.ofName?_name (kind : Aggregate) :
    Aggregate.ofName? kind.name = some kind :=
  find?_name (by decide) (mem_all kind)

theorem Builtin.mem_all (f : Builtin) : f ∈ Builtin.all := by
  cases f <;> decide

/-- A built-in function is found by its name, so no two of them share one. -/
theorem Builtin.ofName?_name (f : Builtin) :
    Builtin.ofName? f.name = some f :=
  find?_name (by decide +kernel) (mem_all f)

end FilterCriteria.Criterion
