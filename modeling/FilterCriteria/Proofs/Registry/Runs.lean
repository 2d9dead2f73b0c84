/-
Runs of operations on a registry that is in use. Registrations for a while
are numbered in the order in which they begin, and each is released at most
once, in whatever order its users come to it.

In a nested run each is released before the ones that began earlier. Such a
run leaves alone what has begun before it, so at its end a registration still
knows what its name stood for. The main statement (`nested_restores`): the
function of a registration is found once it has begun, a registration around
a nested run is undone when it is released, and a nested run of nothing else
changes nothing.
-/
import FilterCriteria.Proofs.Registry.Bindings

namespace FilterCriteria.Registry

-- ============================================================ sessions

/-- A registry in use, and the registrations for a while that have begun, in
their order. One that has been released is `none`. -/
structure Session where
  registry : Registry
  guards : List (Option Registration)

/-- An operation of a registry's users. -/
inductive Step where
  | register (f : CustomFunction)
  | unregister (name : String)
  /-- The lookup of a name. -/
  | find (name : String)
  /-- Begins a registration for a while. -/
  | hold (f : CustomFunction)
  /-- Releases the registration with this number. -/
  | release (guard : Nat)

namespace Session

def step (s : Session) : Step → Session
  | .register f => { s with registry := (s.registry.register f).1 }
  | .unregister name => { s with registry := (s.registry.unregister name).1 }
  | .find _ => s
  | .hold f =>
    let held := s.registry.hold f
    ⟨held.1, s.guards ++ [some held.2]⟩
  | .release guard =>
    match s.guards[guard]? with
    | some (some g) => ⟨g.release s.registry, s.guards.set guard none⟩
    | _ => s

def run (s : Session) (steps : List Step) : Session :=
  steps.foldl step s

theorem run_cons (s : Session) (st : Step) (steps : List Step) :
    s.run (st :: steps) = (s.step st).run steps :=
  rfl

/-- A registration around a run: it begins, the run is made, it is released,
and the rest follows. -/
theorem run_around (s : Session) (f : CustomFunction) (guard : Nat)
    (body rest : List Step) :
    s.run (.hold f :: (body ++ .release guard :: rest))
      = (((s.step (.hold f)).run body).step (.release guard)).run rest :=
  List.foldl_append

/-- The release of a registration in effect ends it. -/
theorem step_release {s : Session} {guard : Nat} {g : Registration}
    (h : s.guards[guard]? = some (some g)) :
    s.step (.release guard)
      = ⟨g.release s.registry, s.guards.set guard none⟩ := by
  simp only [step, h]

theorem getElem?_guards_hold (s : Session) (f : CustomFunction) :
    (s.step (.hold f)).guards[s.guards.length]?
      = some (some (s.registry.hold f).2) :=
  List.getElem?_concat_length

theorem length_guards_hold (s : Session) (f : CustomFunction) :
    (s.step (.hold f)).guards.length = s.guards.length + 1 :=
  List.length_append

end Session

open Session

/-- What a release undoes: the name stands for what it did before, if nothing
has happened in between. -/
theorem release_hold (r : Registry) (f : CustomFunction) :
    (r.hold f).2.release (r.hold f).1 = r := by
  apply eq_of_find?_eq
  intro name
  rw [find?_release, find?_hold]
  split
  · next hname =>
    subst hname
    rfl
  · next hne => exact if_neg hne

-- ========================================================= nested runs

/-- Is the operation about no registration for a while? -/
def Step.isPlain : Step → Bool
  | .register _ | .unregister _ | .find _ => true
  | .hold _ | .release _ => false

/-- Does the operation bind or unbind a name for good? -/
def Step.isLasting : Step → Bool
  | .register _ | .unregister _ => true
  | .find _ | .hold _ | .release _ => false

/-- The run is properly nested. The numbers say how many registrations for a
while have begun before it and after it: they are what each of them is
released by. -/
inductive Nested : Nat → List Step → Nat → Prop where
  | done (n : Nat) : Nested n [] n
  | plain {n m : Nat} {st : Step} {rest : List Step}
      (hplain : st.isPlain = true) (hrest : Nested n rest m) :
      Nested n (st :: rest) m
  | around {n k m : Nat} {body rest : List Step} (f : CustomFunction)
      (hbody : Nested (n + 1) body k) (hrest : Nested k rest m) :
      Nested n (.hold f :: (body ++ .release n :: rest)) m

/-- Registrations are only ever added. -/
theorem Nested.le {n m : Nat} {steps : List Step} (h : Nested n steps m) :
    n ≤ m := by
  induction h with
  | done => exact Nat.le_refl _
  | plain _ _ ih => exact ih
  | around _ _ _ ihbody ihrest => omega

/-- Operations that are about no registration leave them alone. -/
theorem Session.guards_step_of_isPlain (s : Session) {st : Step}
    (h : st.isPlain = true) : (s.step st).guards = s.guards := by
  cases st with
  | register | unregister | find => rfl
  | hold | release => cases h

/-- The registration that a step begins is the one that its release ends, if
nothing has touched it in between. -/
theorem Session.release_of_kept (s : Session) (f : CustomFunction)
    {opened : Session}
    (hkept : opened.guards[s.guards.length]?
      = (s.step (.hold f)).guards[s.guards.length]?) :
    opened.step (.release s.guards.length)
      = ⟨(s.registry.hold f).2.release opened.registry,
        opened.guards.set s.guards.length none⟩ :=
  step_release (hkept.trans (s.getElem?_guards_hold f))

/-- A nested run begins as many registrations as it says, and leaves alone
those that have begun before it. -/
theorem Nested.guards {n m : Nat} {steps : List Step} (h : Nested n steps m)
    {s : Session} (hs : s.guards.length = n) :
    (s.run steps).guards.length = m
      ∧ ∀ i < n, (s.run steps).guards[i]? = s.guards[i]? := by
  induction h generalizing s with
  | done => exact ⟨hs, fun _ _ => rfl⟩
  | plain hplain hrest ih =>
      have hguards := s.guards_step_of_isPlain hplain
      obtain ⟨hlength, hkept⟩ := ih (hguards ▸ hs)
      refine ⟨hlength, fun i hi => ?_⟩
      rw [run_cons, hkept i hi, hguards]
  | @around n k m body rest f hbody hrest ihbody ihrest =>
      subst hs
      obtain ⟨hlength, hkept⟩ := ihbody (s.length_guards_hold f)
      have hrelease := s.release_of_kept f (hkept _ (Nat.lt_succ_self _))
      have hclosed := ihrest (s := ((s.step (.hold f)).run body).step
        (.release s.guards.length)) (by rw [hrelease, List.length_set, hlength])
      rw [run_around]
      refine ⟨hclosed.1, fun i hi => ?_⟩
      -- the release writes at the place of its own guard, which is past `i`
      have hle := hbody.le
      rw [hclosed.2 i (by omega), hrelease, List.getElem?_set_ne (by omega),
        hkept i (by omega)]
      exact List.getElem?_append_left hi

/-- A nested run that binds nothing for good ends where it has started. -/
theorem Nested.registry_eq {n m : Nat} {steps : List Step}
    (h : Nested n steps m) (hlasting : ∀ st ∈ steps, st.isLasting = false)
    {s : Session} (hs : s.guards.length = n) :
    (s.run steps).registry = s.registry := by
  induction h generalizing s with
  | done => rfl
  | @plain n m st rest hplain hrest ih =>
      obtain ⟨hst, hlasting⟩ := List.forall_mem_cons.mp hlasting
      have hsame : s.step st = s := by
        cases st with
        | find => rfl
        | register | unregister => cases hst
        | hold | release => cases hplain
      rw [run_cons, hsame]
      exact ih hlasting hs
  | @around n k m body rest f hbody hrest ihbody ihrest =>
      subst hs
      obtain ⟨-, hlasting⟩ := List.forall_mem_cons.mp hlasting
      obtain ⟨hinside, houtside⟩ := List.forall_mem_append.mp hlasting
      obtain ⟨-, houtside⟩ := List.forall_mem_cons.mp houtside
      obtain ⟨hlength, hkept⟩ := hbody.guards (s.length_guards_hold f)
      have hrelease := s.release_of_kept f (hkept _ (Nat.lt_succ_self _))
      -- the body puts back what the hold left, and the release then undoes
      -- the hold itself
      have hregistry : ((s.step (.hold f)).run body).registry
          = (s.registry.hold f).1 := ihbody hinside (s.length_guards_hold f)
      rw [run_around, hrelease, hregistry, release_hold]
      refine ihrest houtside ?_
      rw [List.length_set, hlength]

/-- A registration for a while is in effect from its beginning on: its name
stands for its function, and does so still after a nested run that registers
and unregisters nothing by itself. It is undone when it is released after a
nested run, whatever the run has done: its name stands again for what it did
before, and every other name for what the run has left. And a nested run that
registers and unregisters nothing by itself ends in the registry that it
started from. -/
theorem nested_restores (s : Session) :
    (∀ (f : CustomFunction) (body : List Step) (k : Nat),
      Nested (s.guards.length + 1) body k →
      let opened := s.run (.hold f :: body)
      let closed := opened.step (.release s.guards.length)
      (s.step (.hold f)).registry.find? f.name = some f
        ∧ ((∀ st ∈ body, st.isLasting = false) →
          opened.registry.find? f.name = some f)
        ∧ closed.registry.find? f.name = s.registry.find? f.name
        ∧ ∀ name, name ≠ f.name →
          closed.registry.find? name = opened.registry.find? name)
    ∧ ∀ (steps : List Step) (m : Nat), Nested s.guards.length steps m →
      (∀ st ∈ steps, st.isLasting = false) →
      (s.run steps).registry = s.registry := by
  refine ⟨fun f body k hbody => ?_, fun steps m h hlasting =>
    h.registry_eq hlasting rfl⟩
  obtain ⟨-, hkept⟩ := hbody.guards (s.length_guards_hold f)
  intro opened closed
  have hheld : (s.step (.hold f)).registry.find? f.name = some f :=
    (s.registry.find?_hold f f.name).trans (if_pos rfl)
  have hclosed : closed.registry
      = (s.registry.hold f).2.release opened.registry :=
    congrArg registry (s.release_of_kept f (hkept _ (Nat.lt_succ_self _)))
  refine ⟨hheld, fun hlasting => ?_, ?_⟩
  · have hopened : opened.registry = (s.step (.hold f)).registry :=
      hbody.registry_eq hlasting (s.length_guards_hold f)
    rw [hopened, hheld]
  rw [hclosed]
  constructor
  · rw [find?_release]
    exact if_pos rfl
  · intro name hne
    rw [find?_release]
    exact if_neg hne

/-- A function that takes the name of another one. -/
def namesake (name : String) : CustomFunction :=
  .ofResult name .bool fun _ => .ok .null

/-- Between the two ends of a registration of `Like`, the name is taken out
and held once more, and another name is bound. At the end `Like` is the
function it was at the start, and the other name is bound still. Without the
operations in between, the name stands for the held function until the end,
and then nothing is left at all. -/
theorem nested_restores_like :
    let s : Session := ⟨.initial, []⟩
    let inner : List Step := [.hold (namesake "Like"), .find "Like", .release 1]
    let body := .unregister "Like" :: inner ++ [.register (namesake "IsAdult")]
    let opened := s.run (.hold (namesake "Like") :: body)
    let closed := opened.step (.release 0)
    Nested 1 body 2 ∧ opened.registry.contains "Like" = false
      ∧ closed.registry.find? "Like" = some .like
      ∧ closed.registry.find? "IsAdult" = some (namesake "IsAdult")
      ∧ (s.run (.hold (namesake "Like") :: inner)).registry.find? "Like"
          = some (namesake "Like")
      ∧ (s.run (.hold (namesake "Like") :: inner ++ [.release 0])).registry
          = .initial := by
  intro s inner body opened closed
  have hinner : ∀ {rest : List Step} {m : Nat}, Nested 2 rest m →
      Nested 1 (inner ++ rest) m := fun hrest =>
    .around (n := 1) _ (.plain rfl (.done 2)) hrest
  have hbody : Nested 1 body 2 := .plain rfl (hinner (.plain rfl (.done 2)))
  have hbare : Nested 0 (.hold (namesake "Like") :: inner ++ [.release 0]) 2 :=
    .around (n := 0) _ (hinner (.done 2)) (.done 2)
  obtain ⟨hscoped, hnothing⟩ := nested_restores s
  obtain ⟨-, -, hname, hothers⟩ := hscoped (namesake "Like") body 2 hbody
  obtain ⟨-, hinside, -⟩ :=
    hscoped (namesake "Like") inner 2 (hinner (.done 2))
  refine ⟨hbody, ?_, hname.trans ?_, (hothers "IsAdult" (by decide)).trans ?_,
    hinside (by decide), hnothing _ 2 hbare (by decide)⟩
  · rfl
  · rfl
  · rfl

end FilterCriteria.Registry
