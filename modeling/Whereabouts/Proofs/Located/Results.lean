import Whereabouts.Proofs.Strip.Containers

namespace Whereabouts.Fallible

variable {r q error : Value} {l : Location} {ask : Outcome Location} {f : Value → Outcome Value}

/-- The refusal of a value by every function on results: nothing is called before it. -/
structure Refused (r : Value) : Prop where
  locate (l : Location) : locate r l = .fail (.notResult r.kind)
  strip : strip r = .fail (.notResult r.kind)
  split : split r = .fail (.notResult r.kind)
  locateError (ask : Outcome Location) : locateError r ask = .fail (.notResult r.kind)
  mapError (f : Value → Outcome Value) : mapError r f = .fail (.notResult r.kind)

/-- A result and the same one with its error mapped. -/
inductive ErrorMapped (f : Value → Outcome Value) : Value → Value → Prop where
  | ok (value : Value) : ErrorMapped f (.ok value) (.ok value)
  | err (error error' : Value) : (f error).result = .ok error' →
      ErrorMapped f (.err error) (.err error')

theorem sides_of_not_isResult (h : ¬IsResult r) : sides r = .fail (.notResult r.kind) := by
  unfold sides
  split
  · exact absurd (.ok _) h
  · exact absurd (.err _) h
  · rfl

theorem refused_of_not_isResult (h : ¬IsResult r) : Refused r := by
  have refused := sides_of_not_isResult h
  constructor
  case locate => intro l; rw [Fallible.locate, refused, Outcome.fail_bind]
  case strip => rw [Fallible.strip, refused, Outcome.fail_bind]
  case split => rw [Fallible.split, refused, Outcome.fail_bind]
  case locateError => intro ask; rw [Fallible.locateError, refused, Outcome.fail_bind]
  case mapError => intro f; rw [Fallible.mapError, refused, Outcome.fail_bind]

theorem strip_locate_undone (h : IsResult r) (l : Location) : (do strip (← locate r l)) = pure r := by
  cases h with
  | ok value => rfl
  | err error => rfl

/-- The parts that a located result is split into make it up again. -/
theorem exists_split (h : IsLocatedResult q) : ∃ r p, split q = pure (r, p) ∧ strip q = pure r ∧
    (p = none ↔ ∃ error, q = .err error) ∧ ∀ l, p = some l → locate r l = pure q := by
  cases h with
  | ok m =>
    refine ⟨.ok m.value, some m.location, rfl, rfl, ?_, ?_⟩
    · constructor
      · intro absent; cases absent
      · rintro ⟨error, same⟩; cases same
    · intro l same
      cases same
      rfl
  | err error =>
    refine ⟨.err error, none, rfl, rfl, ⟨fun _ => ⟨error, rfl⟩, fun _ => rfl⟩, ?_⟩
    intro l some
    cases some

theorem mapError_toValue (m : Located) (f : Value → Outcome Value) :
    mapError (.err m.toValue) f = do return .err (← m.map f).toValue := rfl

theorem mapError_of_not_located (h : Located.ofValue? error = none) (f : Value → Outcome Value) :
    mapError (.err error) f = .fail (.misfit "a located value" error.kind) := by
  rw [mapError, sides, Outcome.pure_bind]
  dsimp only
  rw [located, h]
  rfl

/-- An error that is located and then mapped is the same as one that is mapped and then located. -/
theorem mapError_locateError {error' : Value} (located : ask.result = .ok l)
    (mapped : (f error).result = .ok error') :
    (do mapError (← locateError (.err error) ask) f).result =
        .ok (.err (Located.mk error' l).toValue) ∧
      (locateError (.err error') ask).result = .ok (.err (Located.mk error' l).toValue) := by
  constructor
  · rw [locateError_err, bind_assoc, Outcome.result_bind_eq_ok_iff]
    refine ⟨l, located, ?_⟩
    rw [Outcome.pure_bind, mapError_toValue, Located.map, bind_assoc,
      Outcome.result_bind_eq_ok_iff]
    exact ⟨error', mapped, rfl⟩
  · rw [locateError_err, Outcome.result_bind_eq_ok_iff]
    exact ⟨l, located, rfl⟩

theorem exists_errorMapped (h : IsResult r) (located : ask.Returns) (mapped : ∀ v, (f v).Returns) :
    ∃ r' q, ErrorMapped f r r' ∧ (do mapError (← locateError r ask) f).result = .ok q ∧
      (locateError r' ask).result = .ok q := by
  cases h with
  | ok value => exact ⟨.ok value, .ok value, .ok value, rfl, rfl⟩
  | err error =>
    obtain ⟨l, located⟩ := located
    obtain ⟨error', mapped⟩ := mapped error
    have same := mapError_locateError located mapped
    exact ⟨.err error', _, .err error error' mapped, same.1, same.2⟩

theorem mapError_mapError (r : Value) (f g : Value → Outcome Value) :
    (do mapError (← mapError r f) g) = (mapError r fun v => do g (← f v)) := by
  by_cases result : IsResult r
  · cases result with
    | ok value => rfl
    | err error =>
      cases held : Located.ofValue? error with
      | none =>
        rw [mapError_of_not_located held, mapError_of_not_located held, Outcome.fail_bind]
      | some m =>
        obtain rfl := Located.ofValue?_eq_some_iff.1 held
        simp only [mapError_toValue, Located.map, bind_assoc, pure_bind]
  · have refused := refused_of_not_isResult result
    rw [refused.mapError, refused.mapError, Outcome.fail_bind]

theorem calls_locateError (error : Value) (ask : Outcome Location) :
    (locateError (.err error) ask).calls = ask.calls := by
  rw [locateError_err, Outcome.calls_bind_pure]

theorem calls_mapError (m : Located) (f : Value → Outcome Value) :
    (mapError (.err m.toValue) f).calls = (f m.value).calls := by
  rw [mapError_toValue, Outcome.calls_bind_pure, Located.map, Outcome.calls_bind_pure]

/-- **A location is put on one side of a result, and comes off again.** A success that is located
and stripped is what it was, and a located result is made up of the parts that it splits into, where
the location is missing exactly for a failure. What works on successes leaves a failure as it is,
and what works on errors a success. It makes no difference whether an error is located or mapped
first, nor whether two functions map it in turn or as one. A function that is passed in is called
once for a failure and never for a success. What is no result is refused by all alike, before
anything is called. -/
theorem one_sided_laws (r q : Value) (l : Location) (ask : Outcome Location)
    (f g : Value → Outcome Value) :
    (IsResult r → (do strip (← locate r l)) = pure r) ∧
    (IsLocatedResult q → ∃ r' p, split q = pure (r', p) ∧ strip q = pure r' ∧
      (p = none ↔ ∃ error, q = .err error) ∧ ∀ l, p = some l → locate r' l = pure q) ∧
    ((∀ error, locate (.err error) l = pure (.err error) ∧ strip (.err error) = pure (.err error) ∧
        split (.err error) = pure (.err error, none)) ∧
      ∀ value, locateError (.ok value) ask = pure (.ok value) ∧
        mapError (.ok value) f = pure (.ok value)) ∧
    (IsResult r → ask.Returns → (∀ v, (f v).Returns) → ∃ r' q', ErrorMapped f r r' ∧
      (do mapError (← locateError r ask) f).result = .ok q' ∧
      (locateError r' ask).result = .ok q') ∧
    (do mapError (← mapError r f) g) = (mapError r fun v => do g (← f v)) ∧
    ((∀ error, (locateError (.err error) ask.counted).calls = ask.calls + 1) ∧
      (∀ m : Located, (mapError (.err m.toValue) fun v => (f v).counted).calls =
        (f m.value).calls + 1) ∧
      ∀ value, (locateError (.ok value) ask.counted).calls = 0 ∧
        (mapError (.ok value) fun v => (f v).counted).calls = 0) ∧
    (¬IsResult r → Refused r) := by
  refine ⟨fun result => strip_locate_undone result l, exists_split,
    ⟨fun error => ⟨rfl, rfl, rfl⟩, fun value => ⟨rfl, rfl⟩⟩, exists_errorMapped,
    mapError_mapError r f g, ⟨?_, ?_, fun value => ⟨rfl, rfl⟩⟩, refused_of_not_isResult⟩
  · intro error
    rw [calls_locateError, Outcome.calls_counted]
  · intro m
    rw [calls_mapError, Outcome.calls_counted]

/-- A failure whose error is located and mapped, a located success, and an absent value, which is no
result. -/
theorem one_sided_laws_failure :
    let l : Location := ⟨.text "f", ⟨3, 7⟩⟩
    let failure := Value.err (.text "bad")
    let success := Value.ok (Located.mk (.int 0) l).toValue
    let ask : Outcome Location := pure l
    let shout : Value → Outcome Value := fun v => pure (.list [v])
    (Fallible.IsResult failure ∧ (do strip (← locate failure l)) = pure failure) ∧
    (IsLocatedResult success ∧ ∃ r p, split success = pure (r, p) ∧ strip success = pure r ∧
      (p = none ↔ ∃ error, success = .err error) ∧ ∀ l, p = some l → locate r l = pure success) ∧
    (ask.Returns ∧ (∀ v, (shout v).Returns) ∧ ∃ r q, ErrorMapped shout failure r ∧
      (do mapError (← locateError failure ask) shout).result = .ok q ∧
      (locateError r ask).result = .ok q) ∧
    ¬IsResult .absent ∧ Refused .absent := by
  intro l failure success ask shout
  have failed : IsResult failure := .err _
  have located : IsLocatedResult success := .ok _
  have asked : ask.Returns := ⟨l, rfl⟩
  have shouted : ∀ v, (shout v).Returns := fun v => ⟨_, rfl⟩
  have noResult : ¬IsResult .absent := by rintro ⟨⟩
  obtain ⟨undone, parts, -, turned, -⟩ := one_sided_laws failure success l ask shout shout
  obtain ⟨-, -, -, -, -, -, refused⟩ := one_sided_laws .absent .absent l ask shout shout
  exact ⟨⟨failed, undone failed⟩, ⟨located, parts located⟩,
    ⟨asked, shouted, turned failed asked shouted⟩, noResult, refused noResult⟩

end Whereabouts.Fallible
