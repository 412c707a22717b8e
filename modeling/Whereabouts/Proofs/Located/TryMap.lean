import Whereabouts.Proofs.Located.Results

namespace Whereabouts

namespace Fallible

variable {v : Value}

/-- Goes on with the payload of a success, and passes on anything else. -/
def onSuccess (next : Value → Outcome Value) : Value → Outcome Value
  | .ok value => next value
  | r => pure r

theorem onSuccess_of_ne (h : ∀ u, v ≠ .ok u) (next : Value → Outcome Value) :
    onSuccess next v = pure v := by
  unfold onSuccess
  split
  · exact absurd rfl (h _)
  · rfl

end Fallible

namespace Located

open Fallible

variable {m : Located} {f : Value → Outcome Value} {u : Value}

/-- How a fallible map at a location ends, by how the function has ended on the payload. -/
inductive TryMapped (l : Location) : Except Fault Value → Except Fault Value → Prop where
  | ok (value : Value) : TryMapped l (.ok (.ok value)) (.ok (.ok (Located.mk value l).toValue))
  | err (error : Value) : TryMapped l (.ok (.err error)) (.ok (.err error))
  | other (v : Value) : ¬IsResult v → TryMapped l (.ok v) (.error (.notResult v.kind))
  | fault (fault : Fault) : TryMapped l (.error fault) (.error fault)

/-- What the function gives is located like any result. -/
theorem tryMap_eq_locate (m : Located) (f : Value → Outcome Value) :
    m.tryMap f = (do locate (← f m.value) m.location) := by
  rw [tryMap]
  apply bind_congr
  intro v
  cases v <;> rfl

theorem tryMap_eq_transpose_map (m : Located) (f : Value → Outcome Value) :
    m.tryMap f = (do transpose (← m.map f)) := by
  rw [tryMap_eq_locate, map, bind_assoc]
  rfl

theorem tryMapped_locate (v : Value) (l : Location) :
    TryMapped l (.ok v) (locate v l).result ∧ (locate v l).events = [] := by
  by_cases result : IsResult v
  · cases result with
    | ok value => exact ⟨.ok value, rfl⟩
    | err error => exact ⟨.err error, rfl⟩
  · rw [(refused_of_not_isResult result).locate]
    exact ⟨.other v result, rfl⟩

theorem tryMapped_tryMap (m : Located) (f : Value → Outcome Value) :
    TryMapped m.location (f m.value).result (m.tryMap f).result ∧
      (m.tryMap f).events = (f m.value).events := by
  rw [tryMap_eq_locate]
  cases ended : (f m.value).result with
  | error fault =>
    rw [Outcome.bind_of_error ended]
    exact ⟨.fault fault, rfl⟩
  | ok v =>
    obtain ⟨mapped, silent⟩ := tryMapped_locate v m.location
    rw [Outcome.bind_of_ok ended]
    refine ⟨mapped, ?_⟩
    rw [Outcome.following, silent, List.append_nil]

/-- A function that always succeeds makes it the plain map. -/
theorem tryMap_succeeding (m : Located) (h : Value → Outcome Value) :
    (m.tryMap fun v => return .ok (← h v)) = do return .ok (← m.map h).toValue := by
  rw [tryMap_eq_transpose_map, map, map]
  simp only [bind_assoc, pure_bind]
  rfl

theorem locate_onSuccess (v : Value) (l : Location) (g : Value → Outcome Value) :
    (do onSuccess (fun n => do (← located n).tryMap g) (← locate v l)) =
      (do locate (← onSuccess g v) l) := by
  by_cases result : IsResult v
  · cases result with
    | ok u => exact tryMap_eq_locate ⟨u, l⟩ g
    | err error => rfl
  · have refused := (refused_of_not_isResult result).locate l
    have passed : onSuccess g v = pure v := by
      apply onSuccess_of_ne
      rintro u rfl
      exact result (.ok u)
    rw [refused, passed, Outcome.fail_bind, Outcome.pure_bind, refused]

theorem tryMap_tryMap (m : Located) (f g : Value → Outcome Value) :
    (do onSuccess (fun n => do (← located n).tryMap g) (← m.tryMap f)) =
      (m.tryMap fun v => do onSuccess g (← f v)) := by
  rw [tryMap_eq_locate, tryMap_eq_locate, bind_assoc, bind_assoc]
  apply bind_congr
  intro v
  exact locate_onSuccess v m.location g

theorem tryMap_onSuccess_of_ok (h : (f m.value).result = .ok (.ok u)) (g : Value → Outcome Value) :
    (m.tryMap fun v => do onSuccess g (← f v)) =
      ((Located.mk u m.location).tryMap g).following (f m.value).events := by
  rw [tryMap_eq_locate, tryMap_eq_locate, bind_assoc, Outcome.bind_of_ok h]
  rfl

/-- The second function has no say where the first one has not succeeded. -/
theorem tryMap_onSuccess_of_ne (h : ∀ u, (f m.value).result ≠ .ok (.ok u))
    (g : Value → Outcome Value) : (m.tryMap fun v => do onSuccess g (← f v)) = m.tryMap f := by
  rw [tryMap_eq_locate, tryMap_eq_locate, bind_assoc]
  cases ended : (f m.value).result with
  | error fault => rw [Outcome.bind_of_error ended, Outcome.bind_of_error ended]
  | ok v =>
    have passed : onSuccess g v = pure v := by
      apply onSuccess_of_ne
      rintro u rfl
      exact h u ended
    rw [Outcome.bind_of_ok ended, Outcome.bind_of_ok ended, passed, Outcome.pure_bind]

/-- **Fallible maps agree with plain ones and compose.** A fallible map is the plain map followed by
moving the location inside the result: a success keeps the location, a failure is passed on, and
what is no result is refused by its kind, all of it as the function has left it and with its events
alone. Two in a row are one, of both functions in turn. The second function is called behind a
success of the first, on what that has given, and otherwise not at all. With a function that always
succeeds it is the plain map. -/
theorem fallible_map_laws (m : Located) (f g h : Value → Outcome Value) :
    let inTurn := m.tryMap fun v => do onSuccess g (← f v)
    m.tryMap f = (do transpose (← m.map f)) ∧
    (TryMapped m.location (f m.value).result (m.tryMap f).result ∧
      (m.tryMap f).events = (f m.value).events ∧
      ∀ kind, (Fault.notResult kind).message = "expected Ok or Err, got " ++ kind.name) ∧
    ((do onSuccess (fun n => do (← located n).tryMap g) (← m.tryMap f)) = inTurn ∧
      (∀ u, (f m.value).result = .ok (.ok u) →
        inTurn = ((Located.mk u m.location).tryMap g).following (f m.value).events) ∧
      ((∀ u, (f m.value).result ≠ .ok (.ok u)) → inTurn = m.tryMap f)) ∧
    (m.tryMap fun v => return .ok (← h v)) = do return .ok (← m.map h).toValue := by
  intro inTurn
  obtain ⟨mapped, events⟩ := tryMapped_tryMap m f
  refine ⟨tryMap_eq_transpose_map m f, ⟨mapped, events, fun kind => rfl⟩,
    ⟨tryMap_tryMap m f g, ?_, ?_⟩, tryMap_succeeding m h⟩
  · intro u succeeded
    exact tryMap_onSuccess_of_ok succeeded g
  · intro other
    exact tryMap_onSuccess_of_ne other g

/-- A function that succeeds, with a second one behind it that counts its call, and one that gives
no result, where the second one is not called. -/
theorem fallible_map_laws_counted :
    let m : Located := ⟨.text "7", ⟨.text "f", ⟨2, 3⟩⟩⟩
    let read : Value → Outcome Value := fun _ => pure (.ok (.int 7))
    let keep : Value → Outcome Value := pure
    let next : Value → Outcome Value := fun v => Outcome.counted (pure (.ok (.list [v])))
    ((read m.value).result = .ok (.ok (.int 7)) ∧
      (m.tryMap fun v => do onSuccess next (← read v)) =
        ((Located.mk (.int 7) m.location).tryMap next).following (read m.value).events ∧
      (m.tryMap fun v => do onSuccess next (← read v)).calls = 1) ∧
    ((∀ u, (keep m.value).result ≠ .ok (.ok u)) ∧
      (m.tryMap fun v => do onSuccess next (← keep v)) = m.tryMap keep ∧
      (m.tryMap keep).result = .error (.notResult .text)) := by
  intro m read keep next
  obtain ⟨-, -, ⟨-, called, -⟩, -⟩ := fallible_map_laws m read next read
  obtain ⟨-, -, ⟨-, -, passed⟩, -⟩ := fallible_map_laws m keep next keep
  have none : ∀ u, (keep m.value).result ≠ .ok (.ok u) := by
    intro u same
    cases same
  exact ⟨⟨rfl, called (.int 7) rfl, rfl⟩, none, passed none, rfl⟩

end Located
end Whereabouts
