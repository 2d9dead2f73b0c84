/-
The registry as a finite map, told by its history. Every operation binds and
unbinds names, and what a name stands for is decided by the last of these
events that is about the name. The end of a registration unbinds its name and
binds what the registration has shadowed.

# Bindings

One operation does to a name what its events say (`find?_step`), so a run does
what all of its events say in their order (`find?_run`), and doing these one
after the other leaves the last one in effect (`foldl_apply_eq_some_iff`).
The events of a release depend on the session, as one that is released twice
has none the second time; the log of a run takes them from the session at each
operation.

# Registrations

Which registrations are in effect, and what they shadow, is told by the
operations too: those that have begun and have not been released since shadow
what their names stood for then (`guard_run_iff`). With this the log is a
matter of the operations alone.

The main statement (`finiteMap_of_run`) puts both together with the order of
the names.
-/
import FilterCriteria.Proofs.Registry.Overlap
import FilterCriteria.Proofs.Text.Utf8

namespace FilterCriteria.Registry

open Session

-- ============================================================== events

/-- What can happen to a name. -/
inductive Event where
  /-- The function is bound to its own name. -/
  | bind (f : CustomFunction)
  | unbind (name : String)

/-- The name that it happens to. -/
def Event.name : Event → String
  | .bind f => f.name
  | .unbind name => name

/-- The function that the name stands for afterwards. -/
def Event.function? : Event → Option CustomFunction
  | .bind f => some f
  | .unbind _ => none

/-- What a name stands for after the event. -/
def Event.apply (name : String) (bound : Option CustomFunction) (e : Event) :
    Option CustomFunction :=
  if name = e.name then e.function? else bound

/-- What the end of a registration does. -/
def endOf (g : Registration) : List Event :=
  .unbind g.name :: g.shadowed.toList.map .bind

/-- What an operation does. The release of a registration that is not in
effect does nothing. -/
def Session.events (s : Session) : Step → List Event
  | .register f | .hold f => [.bind f]
  | .unregister name => [.unbind name]
  | .find _ => []
  | .release guard => s.guards[guard]?.join.elim [] endOf

/-- All that a run does, in its order. -/
def Session.log : Session → List Step → List Event
  | _, [] => []
  | s, st :: steps => s.events st ++ (s.step st).log steps

/-- The last event about the name binds the function to it. -/
def LastBinds (es : List Event) (name : String) (f : CustomFunction) : Prop :=
  f.name = name ∧ ∃ before after, es = before ++ .bind f :: after
    ∧ ∀ e ∈ after, e.name ≠ name

variable {name : String} {f : CustomFunction} {bound : Option CustomFunction}
  {es : List Event} {e : Event}

theorem Event.function?_eq_some_iff : e.function? = some f ↔ e = .bind f := by
  cases e with
  | bind k =>
      show some k = some f ↔ _
      rw [Option.some.injEq, Event.bind.injEq]
  | unbind key => exact ⟨nofun, nofun⟩

/-- After an event a name stands for a function if the event bound it, or if it
did so before and the event is about another name. -/
theorem Event.apply_eq_some_iff :
    e.apply name bound = some f
      ↔ (e = .bind f ∧ f.name = name) ∨ (bound = some f ∧ e.name ≠ name) := by
  unfold Event.apply
  split
  · next hname =>
    rw [Event.function?_eq_some_iff]
    constructor
    · intro he
      subst he
      exact Or.inl ⟨rfl, hname.symm⟩
    · intro h
      rcases h with ⟨he, -⟩ | ⟨-, hother⟩
      · exact he
      · exact absurd hname.symm hother
  · next hother =>
    constructor
    · intro hbound
      exact Or.inr ⟨hbound, Ne.symm hother⟩
    · intro h
      rcases h with ⟨rfl, hname⟩ | ⟨hbound, -⟩
      · exact absurd hname.symm hother
      · exact hbound

/-- The last event about a name is among the later ones, or is the first one if
there is none about it later. -/
theorem lastBinds_cons :
    LastBinds (e :: es) name f
      ↔ LastBinds es name f
        ∨ (e = .bind f ∧ f.name = name) ∧ ∀ e ∈ es, e.name ≠ name := by
  unfold LastBinds
  constructor
  · intro h
    obtain ⟨hname, before, after, heq, hafter⟩ := h
    rcases List.cons_eq_append_iff.mp heq with
      ⟨rfl, hcons⟩ | ⟨before, rfl, hes⟩
    · cases hcons
      exact Or.inr ⟨⟨rfl, hname⟩, hafter⟩
    · exact Or.inl ⟨hname, before, after, hes, hafter⟩
  · intro h
    rcases h with ⟨hname, before, after, rfl, hafter⟩ | ⟨⟨rfl, hname⟩, hes⟩
    · exact ⟨hname, e :: before, after, rfl, hafter⟩
    · exact ⟨hname, [], es, rfl, hes⟩

/-- Events in their order leave what the last one about the name has bound, or
what was there if none is about it. -/
theorem foldl_apply_eq_some_iff :
    es.foldl (Event.apply name) bound = some f
      ↔ LastBinds es name f
        ∨ bound = some f ∧ ∀ e ∈ es, e.name ≠ name := by
  induction es generalizing bound with
  | nil =>
      have hnone : ¬ LastBinds [] name f := by
        intro h
        obtain ⟨-, before, after, heq, -⟩ := h
        cases before <;> cases heq
      rw [or_iff_right hnone]
      exact ⟨fun h => ⟨h, nofun⟩, And.left⟩
  | cons e es ih =>
      rw [List.foldl_cons, ih, Event.apply_eq_some_iff, lastBinds_cons,
        List.forall_mem_cons]
      tauto

-- ================================================================ runs

/-- What is shadowed has the name of the registration, so in the end that name
stands for it. -/
theorem foldl_apply_endOf (g : Registration) :
    (endOf g).foldl (Event.apply name) bound
      = if name = g.name then g.shadowed else bound := by
  unfold endOf
  cases hshadowed : g.shadowed with
  | none => rfl
  | some f =>
      show (if name = f.name then some f
        else if name = g.name then none else bound) = _
      rw [g.named f hshadowed]
      split <;> rfl

/-- An operation does to a name what its events say. -/
theorem Session.find?_step (s : Session) (st : Step) (name : String) :
    (s.step st).registry.find? name
      = (s.events st).foldl (Event.apply name) (s.registry.find? name) := by
  cases st with
  | register f => exact s.registry.find?_register f name
  | unregister key => exact s.registry.find?_unregister key name
  | find => rfl
  | hold f => exact s.registry.find?_hold f name
  | release guard =>
      simp only [step, events]
      cases s.guards[guard]? with
      | none => rfl
      | some held =>
          cases held with
          | none => rfl
          | some g =>
              show (g.release s.registry).find? name
                = (endOf g).foldl (Event.apply name) _
              rw [foldl_apply_endOf, find?_release]

/-- A run does to a name what all its events say, in their order. -/
theorem Session.find?_run (s : Session) (steps : List Step) (name : String) :
    (s.run steps).registry.find? name
      = (s.log steps).foldl (Event.apply name) (s.registry.find? name) := by
  induction steps generalizing s with
  | nil => rfl
  | cons st steps ih =>
      rw [run_cons, ih, find?_step, log, List.foldl_append]

-- ======================================================= registrations

/-- The registration began with the function, as the one of this number, and
it has not been released since. It shadows what the name stood for then. -/
def HeldSince (r : Registry) (steps : List Step) (guard : Nat)
    (g : Registration) : Prop :=
  ∃ before f after, steps = before ++ .hold f :: after
    ∧ (heldBy before).length = guard ∧ .release guard ∉ after
    ∧ g.name = f.name
    ∧ g.shadowed = (run ⟨r, []⟩ before).registry.find? f.name

/-- A registration remembers the name and what it stood for. -/
theorem eq_hold_iff {r : Registry} {g : Registration} :
    g = (r.hold f).2 ↔ g.name = f.name ∧ g.shadowed = r.find? f.name := by
  constructor
  · intro hg
    subst hg
    exact ⟨rfl, rfl⟩
  · intro h
    obtain ⟨key, shadowed, hnamed⟩ := g
    obtain ⟨hname, hshadowed⟩ := h
    dsimp only at hname hshadowed
    subst hname hshadowed
    rfl

/-- There is a registration for each function that was held. -/
theorem length_guards_run (r : Registry) (steps : List Step) :
    (run ⟨r, []⟩ steps).guards.length = (heldBy steps).length := by
  induction steps using List.reverseRecOn with
  | nil => rfl
  | append_singleton steps st ih =>
      rw [run_append, heldBy_append, List.length_append, ← ih]
      exact length_guards_step _ st

variable {r : Registry} {steps : List Step} {s : Session} {st : Step}
  {guard : Nat} {g : Registration}

/-- A registration is not in effect once it is released. -/
theorem ne_release_of_guard_step
    (h : (s.step st).guards[guard]? = some (some g)) :
    st ≠ .release guard := by
  intro hst
  subst hst
  rcases guard_of_step h with hg | ⟨f, hst, -⟩
  · rw [step_release hg] at h
    have hlt := (List.getElem?_eq_some_iff.mp hg).1
    cases (List.getElem?_set_self hlt).symm.trans h
  · cases hst

/-- What is in effect after an operation: what was so and is not released by
it, and what it begins. -/
theorem guard_step_iff :
    (s.step st).guards[guard]? = some (some g)
      ↔ (s.guards[guard]? = some (some g) ∧ st ≠ .release guard)
        ∨ ∃ f, st = .hold f ∧ guard = s.guards.length
          ∧ g = (s.registry.hold f).2 := by
  constructor
  · intro h
    have hst := ne_release_of_guard_step h
    exact (guard_of_step h).imp_left fun hg => ⟨hg, hst⟩
  · intro h
    rcases h with ⟨hg, hst⟩ | ⟨f, rfl, rfl, rfl⟩
    · exact guard_step hg hst
    · exact s.getElem?_guards_hold f

/-- The history says the same of one operation more. -/
theorem heldSince_concat :
    HeldSince r (steps ++ [st]) guard g
      ↔ (HeldSince r steps guard g ∧ st ≠ .release guard)
        ∨ ∃ f, st = .hold f ∧ guard = (heldBy steps).length
          ∧ g = ((run ⟨r, []⟩ steps).registry.hold f).2 := by
  constructor
  · intro h
    obtain ⟨before, f, after, heq, hguard, hheld, hg⟩ := h
    rcases List.eq_nil_or_concat after with rfl | ⟨after, last, rfl⟩
    · -- the registration begins with the last operation
      obtain ⟨rfl, hst⟩ := List.append_inj' heq rfl
      cases hst
      exact Or.inr ⟨f, rfl, hguard.symm, eq_hold_iff.mpr hg⟩
    · rw [List.concat_eq_append, ← List.cons_append, ← List.append_assoc]
        at heq
      obtain ⟨rfl, hst⟩ := List.append_inj' heq rfl
      cases hst
      rw [List.concat_eq_append, List.mem_append, List.mem_singleton,
        not_or] at hheld
      exact Or.inl ⟨⟨before, f, after, rfl, hguard, hheld.1, hg⟩,
        Ne.symm hheld.2⟩
  · intro h
    rcases h with ⟨⟨before, f, after, rfl, hguard, hheld, hg⟩, hst⟩
      | ⟨f, rfl, rfl, hg⟩
    · refine ⟨before, f, after ++ [st], List.append_assoc .., hguard, ?_, hg⟩
      rw [List.mem_append, List.mem_singleton, not_or]
      exact ⟨hheld, Ne.symm hst⟩
    · exact ⟨steps, f, [], rfl, rfl, nofun, eq_hold_iff.mp hg⟩

/-- Which registrations are in effect after a run, and what they shadow. -/
theorem guard_run_iff :
    (run ⟨r, []⟩ steps).guards[guard]? = some (some g)
      ↔ HeldSince r steps guard g := by
  induction steps using List.reverseRecOn with
  | nil =>
      constructor
      · intro h
        cases h
      · intro h
        obtain ⟨before, f, after, heq, -⟩ := h
        cases before <;> cases heq
  | append_singleton steps st ih =>
      rw [run_append, heldSince_concat, ← ih, ← length_guards_run r]
      exact guard_step_iff

-- ========================================================== finite maps

/-- The names of a registry are in the order of their bytes. -/
theorem names_pairwise_utf8 (r : Registry) :
    r.names.Pairwise fun a b => utf8 a < utf8 b :=
  r.sorted.imp utf8_lt_of_lt

/-- A registry is a finite map with an ordered list of its names, after any run
of its operations. A name stands for the function that the last event about it
has bound, where the end of a registration that is still in effect unbinds the
name and binds what the name stood for when it began. To register and to
unregister give what the name stood for and change no other name; a name is
known exactly if it stands for something, and exactly these names are listed,
each once, in the order of their bytes in UTF-8. -/
theorem finiteMap_of_run (steps : List Step) :
    let s := run ⟨.empty, []⟩ steps
    (∀ name f, s.registry.find? name = some f
      ↔ LastBinds (log ⟨.empty, []⟩ steps) name f)
    ∧ (∀ guard g, s.guards[guard]? = some (some g)
      ↔ HeldSince .empty steps guard g)
    ∧ (∀ f, (s.registry.register f).2 = s.registry.find? f.name
      ∧ ∀ name, (s.registry.register f).1.find? name
        = if name = f.name then some f else s.registry.find? name)
    ∧ (∀ key, (s.registry.unregister key).2 = s.registry.find? key
      ∧ ∀ name, (s.registry.unregister key).1.find? name
        = if name = key then none else s.registry.find? name)
    ∧ (∀ name, s.registry.contains name = true
      ↔ (s.registry.find? name).isSome = true)
    ∧ (s.registry.names.Pairwise fun a b => utf8 a < utf8 b)
    ∧ ∀ name, name ∈ s.registry.names
      ↔ (s.registry.find? name).isSome = true := by
  intro s
  refine ⟨fun name f => ?_, fun guard g => guard_run_iff,
    fun f => ⟨rfl, s.registry.find?_register f⟩,
    fun key => ⟨rfl, s.registry.find?_unregister key⟩, fun name => Iff.rfl,
    names_pairwise_utf8 _, fun name => mem_names⟩
  have hempty : ¬ (empty.find? name = some f
      ∧ ∀ e ∈ log ⟨.empty, []⟩ steps, e.name ≠ name) := fun h => nomatch h.1
  rw [find?_run, foldl_apply_eq_some_iff, or_iff_left hempty]

end FilterCriteria.Registry
