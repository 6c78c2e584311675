import SpawnForest.Registry.Removal

/-!
# Running an operation

An operation answers or breaks off, and leaves a registry in both cases. `exec`
gives both at once, and the equations here run an operation step by step; no
proof looks into the monad beyond them.
-/

namespace SpawnForest.Registry

variable {α β : Type}

/-- The answer or the fault of an operation, and the registry it leaves. -/
def exec (action : Action α) (r : Registry) : Except Fault α × Registry := action.run.run r

theorem exec_bind (x : Action α) (f : α → Action β) (r : Registry) :
    exec (x >>= f) r =
      match exec x r with
      | (.ok a, s) => exec (f a) s
      | (.error fault, s) => (.error fault, s) := by
  show (ExceptT.run (x >>= f)).run r = _
  rw [ExceptT.run_bind, StateT.run_bind]
  show StateT.run (ExceptT.bindCont f (exec x r).1) (exec x r).2 = _
  cases h : exec x r with
  | mk answer s => cases answer <;> rfl

theorem exec_bind_of_ok {x : Action α} {f : α → Action β} {r s : Registry} {a : α}
    (h : exec x r = (.ok a, s)) : exec (x >>= f) r = exec (f a) s := by
  rw [exec_bind, h]

theorem exec_bind_of_error {x : Action α} {f : α → Action β} {r s : Registry} {fault : Fault}
    (h : exec x r = (.error fault, s)) : exec (x >>= f) r = (.error fault, s) := by
  rw [exec_bind, h]

theorem answer_inj {σ : Type} {a b : α} {s t : σ}
    (h : ((Except.ok a : Except Fault α), s) = (.ok b, t)) : a = b ∧ s = t :=
  (Prod.mk.inj h).imp_left Except.ok.inj

/-- The registry that is left is told by the operation itself once its answer is known. -/
theorem exec_eq_of_answer {x : Action α} {r : Registry} {answer : Except Fault α}
    (h : (exec x r).1 = answer) : exec x r = (answer, (exec x r).2) := by
  rw [← h]

/-- What goes through has gone through first in its first part. -/
theorem exec_bind_eq_ok {x : Action α} {f : α → Action β} {r s : Registry} {b : β}
    (h : exec (x >>= f) r = (.ok b, s)) :
    ∃ a t, exec x r = (.ok a, t) ∧ exec (f a) t = (.ok b, s) := by
  rw [exec_bind] at h
  cases hx : exec x r with
  | mk answer t =>
      rw [hx] at h
      cases answer with
      | error fault => cases (Prod.mk.inj h).1
      | ok a => exact ⟨a, t, rfl, h⟩

/-- An answer that is not looked at changes nothing. -/
theorem exec_bind_pure (x : Action α) (b : β) (r : Registry) :
    (exec (do let _ ← x; return b) r).2 = (exec x r).2 := by
  rw [exec_bind]
  cases exec x r with
  | mk answer s => cases answer <;> rfl

/-- An answer that is only computed with changes nothing either. -/
theorem exec_bind_return (x : Action α) (f : α → β) (r : Registry) :
    exec (do return f (← x)) r = ((exec x r).1.map f, (exec x r).2) := by
  rw [exec_bind]
  cases exec x r with
  | mk answer s => cases answer <;> rfl

theorem isOk_map (answer : Except Fault α) (f : α → β) : (answer.map f).isOk = answer.isOk := by
  cases answer <;> rfl

@[simp] theorem exec_get_bind (f : Registry → Action β) (r : Registry) :
    exec (get >>= f) r = exec (f r) r := exec_bind_of_ok rfl

@[simp] theorem exec_set_bind (s r : Registry) (f : PUnit → Action β) :
    exec (set s >>= f) r = exec (f ⟨⟩) s := exec_bind_of_ok rfl

@[simp] theorem exec_modify_bind (change : Registry → Registry) (f : PUnit → Action β)
    (r : Registry) : exec (modify change >>= f) r = exec (f ⟨⟩) (change r) := exec_bind_of_ok rfl

/-- A choice draws from the source of the registry and changes nothing else. -/
theorem exec_choose (pick : Pcg → Except Fault (α × Pcg)) (r : Registry) :
    exec (choose pick) r =
      match pick r.random with
      | .error fault => (.error fault, r)
      | .ok (a, random) => (.ok a, { r with random := random }) := by
  rw [choose, exec_get_bind]
  cases pick r.random <;> rfl

theorem exec_choose_of_ok {pick : Pcg → Except Fault (α × Pcg)} {r : Registry} {a : α} {g : Pcg}
    (h : pick r.random = .ok (a, g)) : exec (choose pick) r = (.ok a, { r with random := g }) := by
  rw [exec_choose, h]

theorem exec_choose_of_error {pick : Pcg → Except Fault (α × Pcg)} {r : Registry} {fault : Fault}
    (h : pick r.random = .error fault) : exec (choose pick) r = (.error fault, r) := by
  rw [exec_choose, h]

end SpawnForest.Registry
