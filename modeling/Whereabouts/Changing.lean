import Whereabouts.Outcome

namespace Whereabouts

/-- A computation that reads and writes a state: how it ends, and the state that it leaves. What it
has written stays written, also where a fault follows. -/
def Changing (σ α : Type) : Type := σ → Outcome α × σ

namespace Changing

variable {σ α β : Type}

/-- Goes on with what the first computation leaves, unless that one has ended with a fault. -/
def bind (x : Changing σ α) (f : α → Changing σ β) : Changing σ β := fun s =>
  let (o, s) := x s
  match o.result with
  | .ok a =>
    let (p, s) := f a s
    (p.following o.events, s)
  | .error fault => (⟨o.events, .error fault⟩, s)

instance : Monad (Changing σ) where
  pure a := fun s => (pure a, s)
  bind := bind

/-- An outcome that neither reads nor writes. -/
instance : MonadLift Outcome (Changing σ) where
  monadLift o := fun s => (o, s)

def read (f : σ → α) : Changing σ α := fun s => (pure (f s), s)

def modify (f : σ → σ) : Changing σ Unit := fun s => (pure (), f s)

/-- Marks a computation as that of a function which was passed in. -/
def counted (x : Changing σ α) : Changing σ α := fun s => ((x s).1.counted, (x s).2)

/-- What a computation leaves, if it ends with a result. -/
def leave (x : Changing σ α) (s : σ) : Outcome σ :=
  let (o, now) := x s
  do
    let _ ← o
    return now

theorem bind_of_ok {x : Changing σ α} {s : σ} {a : α} (h : (x s).1.result = .ok a)
    (f : α → Changing σ β) :
    (x >>= f) s = ((f a (x s).2).1.following (x s).1.events, (f a (x s).2).2) := by
  change bind x f s = _
  rw [bind]
  generalize x s = ended at h ⊢
  obtain ⟨⟨events, result⟩, now⟩ := ended
  cases h
  rfl

theorem bind_of_error {x : Changing σ α} {s : σ} {fault : Fault}
    (h : (x s).1.result = .error fault) (f : α → Changing σ β) :
    (x >>= f) s = (⟨(x s).1.events, .error fault⟩, (x s).2) := by
  change bind x f s = _
  rw [bind]
  generalize x s = ended at h ⊢
  obtain ⟨⟨events, result⟩, now⟩ := ended
  cases h
  rfl

/-- Goes on after a computation that has ended without a trace but its result and the state. -/
theorem bind_eq {x : Changing σ α} {s now : σ} {a : α} (ran : x s = (pure a, now))
    (f : α → Changing σ β) : (x >>= f) s = f a now := by
  rw [bind_of_ok (a := a) (by rw [ran]; rfl), ran]
  rfl

/-- What is done with a result alone changes nothing in the state. -/
theorem bind_pure (x : Changing σ α) (f : α → β) (s : σ) :
    (x >>= fun a => pure (f a)) s = ((x s).1 >>= fun a => pure (f a), (x s).2) := by
  change bind x (fun a => pure (f a)) s = _
  rw [bind]
  obtain ⟨⟨events, fault | a⟩, now⟩ := x s <;> rfl

theorem lift_bind_fst (o : Outcome α) (f : α → Changing σ β) (s : σ) :
    (((liftM o : Changing σ α) >>= f) s).1 = o >>= fun a => (f a s).1 := by
  obtain ⟨events, fault | a⟩ := o <;> rfl

end Changing
end Whereabouts
