/-
Enclosing scopes. Paths count the lambdas from the inside out, so that what
stands around the outermost lambda in scope is not seen from within, even if
it declares the same parameters again: the inner one is found first
(`hops?_inside`).

The main statement (`compileIn_inside`): a scope around another one changes
nothing but failures about parameters that it is the first to declare. The
two compilations, with the scope around and without, are compared up to such
failures (`enclosingSetting`), and every expression corresponds to itself
there. All that is left to say is what becomes of a member of a parameter
(`sameMembers_inside`) and that lambdas do not get in the way
(`binds_inside`).
-/
import FilterCriteria.Proofs.Compile.Correspondence

namespace FilterCriteria

open Compile

-- ============================================================== scopes

namespace Scope

/-- The scope, with another one around all of it. -/
def inside (s outer : Scope) : Scope :=
  ⟨s.params ++ outer.params⟩

variable {s outer : Scope} {p : Param}

/-- A parameter is found in the inner scope, or else as many lambdas further
out as the inner scope is deep. -/
theorem hops?_inside (s outer : Scope) (p : Param) :
    (s.inside outer).hops? p
      = (s.hops? p).or ((outer.hops? p).map (· + s.depth)) :=
  List.findIdx?_append

/-- What the inner scope has is found there first. -/
theorem path?_inside {path : String} (h : s.path? p = some path) :
    (s.inside outer).path? p = some path := by
  unfold path? at h ⊢
  obtain ⟨hops, hhops, rfl⟩ := Option.map_eq_some_iff.mp h
  rw [hops?_inside, hhops, Option.some_or, Option.map_some]

theorem path?_inside_eq_none (h : s.path? p = none)
    (houter : outer.contains p = false) :
    (s.inside outer).path? p = none := by
  have hhops : outer.hops? p = none :=
    List.findIdx?_eq_none_iff.mpr (by simpa [contains] using houter)
  unfold path? at h ⊢
  rw [hops?_inside, Option.map_eq_none_iff.mp h, hhops]
  rfl

end Scope

-- ======================================================== compilations

namespace Expr

/-- The error is about a parameter that this scope would have. -/
def DeclaredBy (outer : Scope) (error : CompileError) : Prop :=
  ∃ p, outer.contains p = true ∧ error = .outOfScope p

/-- A compilation beside the same one with a scope around. -/
def enclosingSetting (env : Environment) (outer : Scope) : Setting :=
  .inEnvironment env (fun s t => t = s.inside outer)
    (.sameUnless (DeclaredBy outer))

/-- A member of a parameter is the same property with the scope around, unless
the inner scope does not have the parameter and the outer one does. -/
theorem sameMembers_inside (env : Environment) (outer : Scope) (p : Param) :
    (enclosingSetting env outer).SameMembers p p := by
  rintro s _ rfl name
  unfold paramMember
  cases hpath : s.path? p with
  | some path =>
      rw [Scope.path?_inside hpath]
      exact Or.inl rfl
  | none =>
      cases houter : outer.contains p with
      | true => exact Or.inr ⟨_, ⟨p, houter, rfl⟩, rfl⟩
      | false =>
          rw [Scope.path?_inside_eq_none hpath houter]
          exact Or.inl rfl

/-- Lambdas are entered on the inside, so they keep the scope around. -/
theorem binds_inside (env : Environment) (outer : Scope) (p : Param) :
    (enclosingSetting env outer).Binds p p := by
  rintro s _ rfl
  rfl

/-- With a scope around, compilation is the same, unless it has failed for a
parameter that the outer scope has. -/
theorem compileIn_inside_or (env : Environment) (e : Expr) (s outer : Scope) :
    e.compileIn env s = e.compileIn env (s.inside outer)
      ∨ ∃ error, DeclaredBy outer error ∧ e.compileIn env s = .error error :=
  have hself : Corresponds (enclosingSetting env outer) e e :=
    corresponds_self (binds_inside env outer) (sameMembers_inside env outer) e
  hself.outcome rfl

/-- What is around a scope does not change what is compiled within. A
criterion stays the same, and so does every error but that a parameter is not
in scope, which is the same one still if the outer scope does not have the
parameter either. -/
theorem compileIn_inside (env : Environment) (e : Expr) (s outer : Scope) :
    (∀ t, e.compileIn env s = .ok t →
        e.compileIn env (s.inside outer) = .ok t)
      ∧ (∀ x, e.compileIn env s = .error x → x.kind ≠ .parameterOutOfScope →
        e.compileIn env (s.inside outer) = .error x)
      ∧ ∀ p, e.compileIn env s = .error (.outOfScope p) →
        outer.contains p = false →
        e.compileIn env (s.inside outer) = .error (.outOfScope p) := by
  rcases compileIn_inside_or env e s outer with
    heq | ⟨_, ⟨p, hp, rfl⟩, hmissing⟩
  · rw [← heq]
    exact ⟨fun _ h => h, fun _ h _ => h, fun _ h _ => h⟩
  · rw [hmissing]
    refine ⟨nofun, ?_, ?_⟩
    · rintro _ ⟨⟩ hkind
      exact absurd rfl hkind
    · rintro _ ⟨⟩ houter
      exact absurd hp (by rw [houter]; decide)

/-- `o.Total > c.Limit`, with the parameters declared once more around the
scope, in the other order; a whole parameter, which has no criterion; and a
parameter that is declared nowhere. -/
theorem compileIn_inside_redeclared :
    let env : Environment := ⟨.empty, .bare⟩
    let c : Param := ⟨0, "c", .object "Customer"⟩
    let o : Param := ⟨1, "o", .object "Order"⟩
    let x : Param := ⟨2, "x", .object "Order"⟩
    let s : Scope := ⟨[o, c]⟩
    let outer : Scope := ⟨[c, o]⟩
    let exceeds : Expr := .binary .greaterThan
      (.member (.ofParam o) "Total" .int32)
      (.member (.ofParam c) "Limit" .int32) .bool
    exceeds.compileIn env (s.inside outer)
        = .ok (.binary .greater (.property "Total") (.property "^.Limit"))
      ∧ (Expr.ofParam o).compileIn env (s.inside outer)
        = .error (.expression (.ofParam o))
      ∧ (Expr.member (.ofParam x) "Total" .int32).compileIn env
        (s.inside outer) = .error (.outOfScope x) := by
  intro env c o x s outer exceeds
  refine ⟨?_, ?_, ?_⟩
  · exact (compileIn_inside env exceeds s outer).1 _ rfl
  · exact (compileIn_inside env (.ofParam o) s outer).2.1 _ rfl (by decide)
  · exact (compileIn_inside env (.member (.ofParam x) "Total" .int32) s
      outer).2.2 x rfl rfl

end Expr

end FilterCriteria
