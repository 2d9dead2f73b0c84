/-
What names stand for after each operation of a registry. An operation is
about one name and leaves the others alone; and since what all names stand
for determines a registry (`Registry.eq_of_find?_eq`), this says everything
about it.

A registry is a list of names with their functions, in the order of the names
and each name once, and it carries the proof of that. The lemmas come in two
layers: of the finite maps (`Assoc`), where an entry is put into its place or
taken out, and of the registry, where the name of an entry is that of its
function. Registries with equal bindings are equal as lists, for there is one
order (`eq_of_find?_eq`), so a statement that two registries are the same is
proved name by name.
-/
import FilterCriteria.Registry

namespace FilterCriteria

-- ========================================================= finite maps

namespace Assoc

variable {α : Type} {m n : List (String × α)} {d : String × α}
  {key name : String} {a : α}

theorem find?_cons : find? key (d :: m) =
    if key = d.1 then some d.2 else find? key m :=
  rfl

/-- What happens to another name does not depend on the entry in front. -/
theorem find?_cons_of_ne (hne : name ≠ d.1) {x : Option α}
    (h : find? key n = if key = name then x else find? key m) :
    find? key (d :: n) = if key = name then x else find? key (d :: m) := by
  rw [find?_cons, find?_cons, h]
  by_cases hkey : key = d.1
  · have hother : key ≠ name := fun hname => hne (hname ▸ hkey)
    rw [if_pos hkey, if_neg hother, if_pos hkey]
  · rw [if_neg hkey, if_neg hkey]

/-- A binding replaces what the name stood for, and no other name sees it. -/
theorem find?_insert (name : String) (a : α) (m : List (String × α))
    (key : String) :
    find? key (insert name a m)
      = if key = name then some a else find? key m := by
  induction m with
  | nil => rfl
  | cons d rest ih =>
      unfold insert
      split
      · next heq =>
        rw [find?_cons, find?_cons, ← heq]
        split <;> rfl
      · next hne =>
        split
        · rfl
        · exact find?_cons_of_ne hne ih

theorem find?_eq_none (h : ∀ e ∈ m, key ≠ e.1) : find? key m = none := by
  induction m with
  | nil => rfl
  | cons d rest ih =>
      obtain ⟨hd, hrest⟩ := List.forall_mem_cons.mp h
      rw [find?_cons, if_neg hd, ih hrest]

/-- In an ordered map the first name does not come again. -/
theorem find?_tail (h : Sorted (d :: m)) : find? d.1 m = none :=
  find?_eq_none fun e he heq =>
    String.lt_irrefl e.1 (heq ▸ (sorted_cons.mp h).1 e he)

/-- Taking a name out takes it out for good: in a sorted map there is no second
entry for it. -/
theorem find?_erase (h : Sorted m) (name key : String) :
    find? key (erase name m) = if key = name then none else find? key m := by
  induction m with
  | nil => exact (ite_self none).symm
  | cons d rest ih =>
      unfold erase
      split
      · next heq =>
        subst heq
        rw [find?_cons]
        by_cases hkey : key = d.1
        · rw [if_pos hkey, hkey, find?_tail h]
        · rw [if_neg hkey, if_neg hkey]
      · next hne => exact find?_cons_of_ne hne (ih (sorted_cons.mp h).2)

/-- A name stands for something exactly if it is listed. -/
theorem isSome_find?_iff :
    (find? key m).isSome = true ↔ key ∈ m.map Prod.fst := by
  induction m with
  | nil => exact ⟨nofun, nofun⟩
  | cons d rest ih =>
      rw [find?_cons, List.map_cons, List.mem_cons, ← ih]
      by_cases hkey : key = d.1
      · rw [if_pos hkey]
        exact iff_of_true rfl (Or.inl hkey)
      · rw [if_neg hkey, or_iff_right hkey]

/-- What is found comes no earlier than the first name. -/
theorem le_of_find? (h : Sorted (d :: m))
    (hfind : find? key (d :: m) = some a) : d.1 ≤ key := by
  rcases List.mem_cons.mp (mem_of_find? hfind) with heq | hmem
  · exact heq ▸ String.le_refl key
  · exact String.not_lt.mp (String.lt_asymm ((sorted_cons.mp h).1 _ hmem))

/-- Ordered maps in which all names are bound alike are the same. -/
theorem eq_of_find?_eq (hm : Sorted m) (hn : Sorted n)
    (h : ∀ key, find? key m = find? key n) : m = n := by
  induction m generalizing n with
  | nil =>
      cases n with
      | nil => rfl
      | cons c rest =>
          have hc := h c.1
          rw [find?_cons, if_pos rfl] at hc
          cases hc
  | cons d m ih =>
      have hd : find? d.1 n = some d.2 := by
        rw [← h, find?_cons, if_pos rfl]
      cases n with
      | nil => cases hd
      | cons c n =>
          have hc : find? c.1 (d :: m) = some c.2 := by
            rw [h, find?_cons, if_pos rfl]
          -- each first key is found in the other list, so neither is the lesser
          have hname : d.1 = c.1 :=
            String.le_antisymm (le_of_find? hm hc) (le_of_find? hn hd)
          rw [find?_cons, if_pos hname] at hd
          have hfirst : d = c := Prod.ext hname (Option.some.inj hd).symm
          subst hfirst
          refine congrArg (d :: ·)
            (ih (sorted_cons.mp hm).2 (sorted_cons.mp hn).2 fun key => ?_)
          by_cases hkey : key = d.1
          · -- sorted lists do not repeat their first key
            rw [hkey, find?_tail hm, find?_tail hn]
          · have hrest := h key
            rwa [find?_cons, find?_cons, if_neg hkey, if_neg hkey] at hrest

end Assoc

-- =========================================================== registries

namespace Registry

variable {r s : Registry}

/-- To register a function binds its name to it. -/
@[simp] theorem find?_register (r : Registry) (f : CustomFunction)
    (name : String) :
    (r.register f).1.find? name
      = if name = f.name then some f else r.find? name :=
  Assoc.find?_insert f.name f r.entries name

/-- To unregister a name leaves it unbound. -/
@[simp] theorem find?_unregister (r : Registry) (key name : String) :
    (r.unregister key).1.find? name
      = if name = key then none else r.find? name :=
  Assoc.find?_erase r.sorted key name

theorem contains_unregister_self (r : Registry) (name : String) :
    (r.unregister name).1.contains name = false := by
  unfold contains
  rw [find?_unregister, if_pos rfl]
  rfl

theorem contains_unregister_of_ne {key name : String} (h : name ≠ key) :
    (r.unregister key).1.contains name = r.contains name := by
  unfold contains
  rw [find?_unregister, if_neg h]

/-- Names that are left were there before. -/
theorem contains_of_unregister (key : String) :
    ∀ name, (r.unregister key).1.contains name = true →
      r.contains name = true := by
  intro name h
  by_cases hname : name = key
  · rw [hname, contains_unregister_self] at h
    cases h
  · rwa [contains_unregister_of_ne hname] at h

/-- To register for a while binds like to register. -/
@[simp] theorem find?_hold (r : Registry) (f : CustomFunction)
    (name : String) :
    (r.hold f).1.find? name
      = if name = f.name then some f else r.find? name :=
  r.find?_register f name

/-- The end of a registration brings back what its name stood for when it
began. The function that was shadowed goes back under its own name, which is
the name of the registration. -/
@[simp] theorem find?_release (g : Registration) (r : Registry)
    (name : String) :
    (g.release r).find? name
      = if name = g.name then g.shadowed else r.find? name := by
  unfold Registration.release
  cases hshadowed : g.shadowed with
  | none => exact r.find?_unregister g.name name
  | some f =>
      simp only [find?_register, find?_unregister, g.named f hshadowed]
      split <;> rfl

/-- The names of a registry are those that stand for something. -/
theorem mem_names {name : String} :
    name ∈ r.names ↔ (r.find? name).isSome = true :=
  Assoc.isSome_find?_iff.symm

/-- Registries in which all names stand for the same are the same. -/
theorem eq_of_find?_eq (h : ∀ name, r.find? name = s.find? name) : r = s := by
  obtain ⟨entries, hr, _⟩ := r
  obtain ⟨entries', hs, _⟩ := s
  obtain rfl : entries = entries' := Assoc.eq_of_find?_eq hr hs h
  rfl

end Registry

end FilterCriteria
