/-
Registrations for a while that overlap. Users of one registry who do not
know of each other release in any order, and a release puts back what the
name stood for when the registration began, which may be a function whose
own registration has ended since.

# One step and whole runs

For each operation it is said what a name can stand for after it, and which
registrations are in effect: `found_of_step`, `guard_of_step` and
`willPutBack_of_step` say all that can have happened, so that no proof about
runs opens the operations again. By induction over the run, whatever a name
stands for, and whatever a registration will put back, was there at the start
or has been held before (`Traced`).

# Coming back

A function that has been released is not found, and stays so as long as no
registration that would put it back is released (`not_found_run`). If one is,
the function is found right after it (`found_of_release_mem`). The main
statement (`found_after_release_iff`): the function of a released registration
is found again exactly when a later registration that began on top of it was
still in effect then, and is released too. `found_after_release_outOfOrder`
is such a run.
-/
import Mathlib.Data.List.Induction
import Mathlib.Data.List.Nodup
import FilterCriteria.Proofs.Registry.Runs

namespace FilterCriteria.Registry

open Session

-- ======================================================== what is held

/-- The function that an operation holds for a while. -/
def Step.held? : Step → Option CustomFunction
  | .hold f => some f
  | _ => none

/-- The functions that a run holds for a while. The place of each is the
number of its registration. -/
def heldBy (steps : List Step) : List CustomFunction :=
  steps.filterMap Step.held?

theorem heldBy_append (before after : List Step) :
    heldBy (before ++ after) = heldBy before ++ heldBy after :=
  List.filterMap_append

/-- What a run holds is what one of its operations holds. -/
theorem mem_heldBy {steps : List Step} {f : CustomFunction} :
    f ∈ heldBy steps ↔ .hold f ∈ steps := by
  unfold heldBy
  rw [List.mem_filterMap]
  constructor
  · rintro ⟨st, hst, hf⟩
    cases st with
    | hold k =>
        cases hf
        exact hst
    | _ => cases hf
  · intro h
    exact ⟨.hold f, h, rfl⟩

namespace Session

variable {s : Session} {st : Step} {f : CustomFunction} {guard : Nat}
  {g : Registration}

/-- The registration with this number is in effect, and its end will put
the function back. -/
def WillPutBack (s : Session) (guard : Nat) (f : CustomFunction) : Prop :=
  ∃ g, s.guards[guard]? = some (some g) ∧ g.shadowed = some f

theorem run_append (s : Session) (before after : List Step) :
    s.run (before ++ after) = (s.run before).run after :=
  List.foldl_append

-- ============================================================= one step

/-- The release of a registration that is in effect ends it, and that of
another one does nothing. -/
theorem step_release_or (s : Session) (guard : Nat) :
    (∃ g, s.guards[guard]? = some (some g)
      ∧ s.step (.release guard)
        = ⟨g.release s.registry, s.guards.set guard none⟩)
      ∨ s.step (.release guard) = s := by
  cases hg : s.guards[guard]? with
  | none => exact Or.inr (by simp only [step, hg])
  | some found =>
      cases found with
      | none => exact Or.inr (by simp only [step, hg])
      | some g => exact Or.inl ⟨g, rfl, step_release hg⟩

/-- Only beginning a registration adds one; a release leaves its place empty.
-/
theorem length_guards_step (s : Session) (st : Step) :
    (s.step st).guards.length = s.guards.length + (heldBy [st]).length := by
  cases st with
  | register | unregister | find => rfl
  | hold f => exact s.length_guards_hold f
  | release guard =>
      rcases s.step_release_or guard with ⟨g, -, hstep⟩ | hstep
      · rw [hstep]
        exact List.length_set
      · rw [hstep]
        rfl

/-- What is in effect after an operation was so before it, unless the
operation began it. -/
theorem guard_of_step (h : (s.step st).guards[guard]? = some (some g)) :
    s.guards[guard]? = some (some g)
      ∨ ∃ f, st = .hold f ∧ guard = s.guards.length
        ∧ g = (s.registry.hold f).2 := by
  cases st with
  | register | unregister | find => exact Or.inl h
  | hold f =>
      change (s.guards ++ [some (s.registry.hold f).2])[guard]? = _ at h
      rw [List.getElem?_append] at h
      split at h
      · exact Or.inl h
      · next hle =>
        obtain ⟨hlt, heq⟩ := List.getElem?_eq_some_iff.mp h
        rw [List.length_singleton] at hlt
        have hlast : guard = s.guards.length := by omega
        subst hlast
        simp only [Nat.sub_self, List.getElem_cons_zero] at heq
        exact Or.inr ⟨f, rfl, rfl, (Option.some.inj heq).symm⟩
  | release other =>
      refine Or.inl ?_
      rcases s.step_release_or other with ⟨k, hk, hstep⟩ | hstep
      · rw [hstep] at h
        -- a released place holds no guard, so it is not the one found
        have hne : other ≠ guard := by
          rintro rfl
          have hlt := (List.getElem?_eq_some_iff.mp hk).1
          cases (List.getElem?_set_self hlt).symm.trans h
        exact (List.getElem?_set_ne hne).symm.trans h
      · rwa [hstep] at h

/-- A registration is in effect until it is released. -/
theorem guard_step (h : s.guards[guard]? = some (some g))
    (hst : st ≠ .release guard) :
    (s.step st).guards[guard]? = some (some g) := by
  cases st with
  | register | unregister | find => exact h
  | hold f =>
      have hlt := (List.getElem?_eq_some_iff.mp h).1
      exact (List.getElem?_append_left hlt).trans h
  | release other =>
      have hne : other ≠ guard := fun heq => hst (congrArg Step.release heq)
      rcases s.step_release_or other with ⟨k, -, hstep⟩ | hstep
      · rw [hstep]
        exact (List.getElem?_set_ne hne).trans h
      · rwa [hstep]

/-- What a name stands for after an operation that binds nothing for good:
what it stood for before, what the operation holds, or what it puts back. -/
theorem found_of_step (hst : st.isLasting = false) {name : String}
    (h : (s.step st).registry.find? name = some f) :
    s.registry.find? name = some f ∨ st = .hold f
      ∨ ∃ guard, st = .release guard ∧ s.WillPutBack guard f := by
  cases st with
  | register | unregister => cases hst
  | find => exact Or.inl h
  | hold k =>
      change (s.registry.hold k).1.find? name = _ at h
      rw [find?_hold] at h
      split at h
      · exact Or.inr (Or.inl (congrArg Step.hold (Option.some.inj h)))
      · exact Or.inl h
  | release guard =>
      rcases s.step_release_or guard with ⟨g, hg, hstep⟩ | hstep
      · rw [hstep, find?_release] at h
        split at h
        · exact Or.inr (Or.inr ⟨guard, rfl, g, hg, h⟩)
        · exact Or.inl h
      · rw [hstep] at h
        exact Or.inl h

/-- The end of a registration puts the function back. -/
theorem find?_of_willPutBack (h : s.WillPutBack guard f) :
    (s.step (.release guard)).registry.find? f.name = some f := by
  obtain ⟨g, hg, hshadowed⟩ := h
  rw [step_release hg, find?_release, if_pos (g.named f hshadowed), hshadowed]

/-- A registration that will put a function back began while a name stood
for the function. -/
theorem willPutBack_of_step (h : (s.step st).WillPutBack guard f) :
    s.WillPutBack guard f
      ∨ ∃ k, st = .hold k ∧ guard = s.guards.length
        ∧ s.registry.find? k.name = some f := by
  obtain ⟨g, hg, hshadowed⟩ := h
  rcases guard_of_step hg with hg | ⟨k, hst, hlast, rfl⟩
  · exact Or.inl ⟨g, hg, hshadowed⟩
  · exact Or.inr ⟨k, hst, hlast, hshadowed⟩

end Session

-- ========================================================== whole runs

variable {r : Registry} {steps : List Step} {s : Session} {st : Step}
  {f : CustomFunction} {guard : Nat}

/-- What a run from a registry leaves: every function comes from the start
or has been held, and what a registration will put back has been held before
it. A registration is there for each function held, and in effect until it is
released. -/
structure Traced (r : Registry) (steps : List Step) (s : Session) :
    Prop where
  length_guards : s.guards.length = (heldBy steps).length
  found : ∀ {name f}, s.registry.find? name = some f →
    r.find? f.name = some f ∨ f ∈ heldBy steps
  putBack : ∀ {guard f}, s.WillPutBack guard f →
    r.find? f.name = some f ∨ f ∈ (heldBy steps).take guard
  inEffect : ∀ {guard f}, (heldBy steps)[guard]? = some f →
    .release guard ∉ steps →
    ∃ g, s.guards[guard]? = some (some g) ∧ g.name = f.name

/-- At the start nothing has been held. -/
theorem traced_nil (r : Registry) : Traced r [] ⟨r, []⟩ where
  length_guards := rfl
  found h := Or.inl (name_of_find? h ▸ h)
  putBack := by
    rintro guard f ⟨g, hg, -⟩
    cases hg
  inEffect h := by cases h

/-- One operation more keeps the account. -/
theorem Traced.concat (h : Traced r steps s) (hst : st.isLasting = false) :
    Traced r (steps ++ [st]) (s.step st) where
  length_guards := by
    rw [length_guards_step, h.length_guards, heldBy_append, List.length_append]
  found {name f} hfound := by
    rw [heldBy_append, List.mem_append]
    rcases found_of_step hst hfound with hfound | rfl | ⟨guard, rfl, hback⟩
    · exact (h.found hfound).imp_right Or.inl
    · exact Or.inr (Or.inr (List.mem_singleton_self f))
    · exact (h.putBack hback).imp_right fun hf => Or.inl (List.mem_of_mem_take hf)
  putBack {guard f} hback := by
    rw [heldBy_append]
    rcases willPutBack_of_step hback with hback | ⟨k, rfl, rfl, hfound⟩
    · -- a guard that was open before: the prefix it cuts off is inside the
      -- old steps, so the new one does not lengthen it
      obtain ⟨g, hg, -⟩ := id hback
      have hlt := (List.getElem?_eq_some_iff.mp hg).1
      rw [h.length_guards] at hlt
      rw [List.take_append_of_le_length (Nat.le_of_lt hlt)]
      exact h.putBack hback
    · rw [h.length_guards, List.take_left]
      exact h.found hfound
  inEffect {guard f} hguard hrelease := by
    rw [List.mem_append, List.mem_singleton, not_or] at hrelease
    rw [heldBy_append, List.getElem?_append] at hguard
    split at hguard
    · obtain ⟨g, hg, hname⟩ := h.inEffect hguard hrelease.1
      exact ⟨g, guard_step hg (Ne.symm hrelease.2), hname⟩
    · next hle =>
      -- past the old guards only a hold adds one, and only at the end
      cases st with
      | hold k =>
          obtain ⟨hlt, heq⟩ := List.getElem?_eq_some_iff.mp hguard
          have hlast : guard = s.guards.length := by
            rw [h.length_guards]
            change _ < 1 at hlt
            omega
          subst hlast
          refine ⟨_, s.getElem?_guards_hold k, ?_⟩
          simp only [h.length_guards, Nat.sub_self] at heq
          exact congrArg CustomFunction.name heq
      | _ => cases hguard

/-- The account of a run that binds nothing for good. -/
theorem traced_run (r : Registry) {steps : List Step}
    (h : ∀ st ∈ steps, st.isLasting = false) :
    Traced r steps (run ⟨r, []⟩ steps) := by
  induction steps using List.reverseRecOn with
  | nil => exact traced_nil r
  | append_singleton steps st ih =>
      obtain ⟨hsteps, hst⟩ := List.forall_mem_append.mp h
      rw [run_append]
      exact (ih hsteps).concat (hst st (List.mem_singleton_self st))

-- ========================================================== coming back

/-- A function that no name stands for is not found as long as it is not
held, and no registration that was to put it back ends. -/
theorem not_found_run (hlasting : ∀ st ∈ steps, st.isLasting = false)
    (hhold : .hold f ∉ steps)
    (hrelease : ∀ guard, s.WillPutBack guard f → .release guard ∉ steps)
    (h : ∀ name, s.registry.find? name ≠ some f) :
    ∀ name, (s.run steps).registry.find? name ≠ some f := by
  induction steps generalizing s with
  | nil => exact h
  | cons st steps ih =>
      obtain ⟨hst, hlasting⟩ := List.forall_mem_cons.mp hlasting
      obtain ⟨hheld, hhold⟩ := List.ne_and_not_mem_of_not_mem_cons hhold
      refine ih hlasting hhold (fun guard hback hmem => ?_) fun name hfound => ?_
      · -- nothing has begun on top of the function in the meantime
        rcases willPutBack_of_step hback with hback | ⟨k, -, -, hfound⟩
        · exact hrelease guard hback (List.mem_cons_of_mem _ hmem)
        · exact h _ hfound
      · rcases found_of_step hst hfound with hfound | rfl | ⟨guard, rfl, hback⟩
        · exact h name hfound
        · exact hheld rfl
        · exact hrelease guard hback (List.mem_cons_self ..)

/-- A registration that will put a function back does so, if it is ever
released. -/
theorem found_of_release_mem (h : s.WillPutBack guard f)
    (hmem : .release guard ∈ steps) :
    ∃ later, later <+: steps
      ∧ (s.run later).registry.find? f.name = some f := by
  induction steps generalizing s with
  | nil => cases hmem
  | cons st steps ih =>
      by_cases hst : st = .release guard
      · subst hst
        exact ⟨[.release guard], List.prefix_append [_] steps,
          find?_of_willPutBack h⟩
      · obtain ⟨g, hg, hshadowed⟩ := h
        have hmem := List.mem_of_ne_of_mem (Ne.symm hst) hmem
        obtain ⟨later, hlater, hfound⟩ :=
          ih ⟨g, guard_step hg hst, hshadowed⟩ hmem
        exact ⟨st :: later, List.cons_prefix_cons.mpr ⟨rfl, hlater⟩, hfound⟩

/-- In a list without repetitions, what stands at a place is in front of the
places after it only. -/
theorem lt_of_mem_take {α : Type} {l : List α} {a : α} {i j : Nat}
    (hdistinct : l.Nodup) (hi : l[i]? = some a) (hmem : a ∈ l.take j) :
    i < j := by
  obtain ⟨hlt, hi⟩ := List.getElem?_eq_some_iff.mp hi
  obtain ⟨k, hk, heq⟩ := List.mem_take_iff_getElem.mp hmem
  have hkl : k < l.length := by omega
  have hik : i = k := (hdistinct.getElem_inj_iff).mp (hi.trans heq.symm)
  omega

/-- After its release no name stands for the function of a registration, and
only what has begun after it will put it back. -/
theorem Traced.release (h : Traced r steps s)
    (hdistinct : (heldBy steps).Nodup) (hnew : r.find? f.name ≠ some f)
    (hguard : (heldBy steps)[guard]? = some f)
    (hheld : .release guard ∉ steps) :
    (∀ name, (s.step (.release guard)).registry.find? name ≠ some f)
      ∧ ∀ other, (s.step (.release guard)).WillPutBack other f →
        guard < other := by
  have hlater : ∀ other, s.WillPutBack other f → guard < other :=
    fun other hback => (h.putBack hback).elim (absurd · hnew)
      (lt_of_mem_take hdistinct hguard)
  constructor
  · intro name hfound
    obtain ⟨g, hg, hname⟩ := h.inEffect hguard hheld
    have hfname : f.name = name := name_of_find? hfound
    rw [step_release hg, find?_release, if_pos (hname ▸ hfname.symm)]
      at hfound
    exact Nat.lt_irrefl guard (hlater guard ⟨g, hg, hfound⟩)
  · intro other hback
    rcases willPutBack_of_step hback with hback | ⟨_, hhold, -⟩
    · exact hlater other hback
    · cases hhold

/-- When the function of a released registration comes back. In a run that
holds different functions, none of them there at the start, and releases
them in any order, the function of a registration that has been released is
found later on exactly if a later registration that began on top of it was in
effect at its release, and is released after it. -/
theorem found_after_release_iff (r : Registry) (before after : List Step)
    (hlasting : ∀ st ∈ before ++ after, st.isLasting = false)
    (hdistinct : (heldBy (before ++ after)).Nodup)
    (hnew : ∀ k ∈ heldBy (before ++ after), r.find? k.name ≠ some k)
    (hguard : (heldBy before)[guard]? = some f)
    (hheld : .release guard ∉ before) :
    let released := run ⟨r, []⟩ (before ++ [.release guard])
    (∃ later name, later <+: after
        ∧ (released.run later).registry.find? name = some f)
      ↔ ∃ other, guard < other ∧ released.WillPutBack other f
        ∧ .release other ∈ after := by
  intro released
  obtain ⟨hbefore, hafter⟩ := List.forall_mem_append.mp hlasting
  rw [heldBy_append] at hdistinct hnew
  have hmem : f ∈ heldBy before := List.mem_of_getElem? hguard
  have hagain : .hold f ∉ after := fun hhold =>
    List.disjoint_of_nodup_append hdistinct hmem (mem_heldBy.mpr hhold)
  have hreleased : released = (run ⟨r, []⟩ before).step (.release guard) :=
    run_append _ before [.release guard]
  obtain ⟨hgone, hlater⟩ := (traced_run r hbefore).release
    hdistinct.of_append_left (hnew f (List.mem_append_left _ hmem)) hguard hheld
  rw [← hreleased] at hgone hlater
  constructor
  · rintro ⟨later, name, hlead, hfound⟩
    -- nothing that would put it back is released, so it is never found
    by_contra hnone
    refine not_found_run (fun st hst => hafter st (hlead.mem hst))
      (fun hhold => hagain (hlead.mem hhold)) (fun other hback hmem => ?_)
      hgone name hfound
    exact hnone ⟨other, hlater other hback, hback, hlead.mem hmem⟩
  · rintro ⟨other, -, hback, hmem⟩
    obtain ⟨later, hlead, hfound⟩ := found_of_release_mem hback hmem
    exact ⟨later, f.name, hlead, hfound⟩

/-- A rule for who is an adult, with results of a type. -/
def adultRule (result : Ty) : CustomFunction :=
  .ofResult "IsAdult" result fun _ => .ok .null

theorem adultRule_injective : Function.Injective adultRule := fun _ _ h =>
  congrFun (congrArg CustomFunction.resultType h) []

theorem not_found_empty {fs : List CustomFunction} :
    ∀ k ∈ fs, empty.find? k.name ≠ some k :=
  fun _ _ => nofun

/-- Of three registrations of one name the second is released first, then the
first one, and then the third. The function of the second comes back, since
the third began on top of it. That of the first does not: what began on top
of it has ended before. -/
theorem found_after_release_ofThree :
    let begun : List Step := [.hold (adultRule .bool),
      .hold (adultRule .int32), .hold (adultRule .string)]
    let second := run ⟨.empty, []⟩ (begun ++ [.release 1])
    let first := run ⟨.empty, []⟩ ((begun ++ [.release 1]) ++ [.release 0])
    (∃ later name, later <+: [.release 0, .release 2]
        ∧ (second.run later).registry.find? name = some (adultRule .int32))
      ∧ ¬ ∃ later name, later <+: [.release 2]
        ∧ (first.run later).registry.find? name = some (adultRule .bool) := by
  intro begun second first
  have hdistinct : ([.bool, .int32, .string].map adultRule).Nodup :=
    List.Nodup.map adultRule_injective (by decide)
  constructor
  · refine (found_after_release_iff .empty begun [.release 0, .release 2]
      (by decide) hdistinct not_found_empty rfl (by simp [begun])).mpr ?_
    exact ⟨2, by decide, ⟨_, rfl, rfl⟩, by simp⟩
  · intro hfound
    obtain ⟨other, -, ⟨g, hg, hshadowed⟩, hmem⟩ :=
      (found_after_release_iff .empty (begun ++ [Step.release 1])
        [.release 2] (by decide) hdistinct not_found_empty rfl
        (by simp [begun])).mp hfound
    obtain rfl : other = 2 := by simpa using hmem
    cases hg
    cases adultRule_injective (Option.some.inj hshadowed)

/-- A function that does come back: of two registrations of a name the first
is released first. Its function is gone then, and is there again when the
second one has been released too. -/
theorem found_after_release_outOfOrder :
    let outer := adultRule .bool
    let inner := adultRule .int32
    let begun : List Step := [.hold outer, .hold inner]
    let released := run ⟨.empty, []⟩ (begun ++ [.release 0])
    (heldBy begun).Nodup ∧ (∀ k ∈ heldBy begun, empty.find? k.name ≠ some k)
      ∧ released.registry.find? "IsAdult" = none
      ∧ (released.step (.release 1)).registry.find? "IsAdult"
        = some outer := by
  have hdistinct : ([.bool, .int32].map adultRule).Nodup :=
    List.Nodup.map adultRule_injective (by decide)
  exact ⟨hdistinct, not_found_empty, rfl, rfl⟩

end FilterCriteria.Registry
