import Whereabouts.Located.Optional

namespace Whereabouts

namespace Located

variable {m n : Located}

theorem transpose?_of_ne (h : m.value ≠ .absent) : m.transpose? = some m := by
  unfold transpose?
  split
  · rename_i absent
    exact absurd absent h
  · rfl

theorem transpose?_eq_none_iff : m.transpose? = none ↔ m.value = .absent := by
  by_cases absent : m.value = .absent
  · have none : m.transpose? = none := by rw [transpose?, absent]
    exact iff_of_true none absent
  · have some : m.transpose? = some m := transpose?_of_ne absent
    exact iff_of_false (by rw [some]; intro h; cases h) absent

theorem eq_of_transpose? (h : m.transpose? = some n) : n = m := by
  by_cases absent : m.value = .absent
  · rw [transpose?_eq_none_iff.2 absent] at h
    cases h
  · rw [transpose?_of_ne absent] at h
    cases h
    rfl

/-- A located value is unwrapped to its transpose, and refused where there is none. -/
theorem unwrap_eq (m : Located) : m.unwrap =
    match m.transpose? with
    | some n => pure n
    | none => .fail (.absentPayload m.location) := by
  unfold unwrap transpose?
  split <;> rfl

theorem unwrap_eq_ok_iff : m.unwrap.result = .ok n ↔ m.transpose? = some n := by
  rw [unwrap_eq]
  cases m.transpose? with
  | none => constructor <;> intro h <;> cases h
  | some n' => constructor <;> intro h <;> cases h <;> rfl

theorem unwrap_eq_error_iff {fault : Fault} : m.unwrap.result = .error fault ↔
    m.transpose? = none ∧ fault = .absentPayload m.location := by
  rw [unwrap_eq]
  cases m.transpose? with
  | none =>
    constructor
    · intro h; cases h; exact ⟨rfl, rfl⟩
    · rintro ⟨-, rfl⟩; rfl
  | some n =>
    constructor
    · intro h; cases h
    · rintro ⟨h, -⟩; cases h

end Located

namespace Optional

variable {o : Option Located} {v : Value} {ask : Outcome Location}

/-- No located value, or one whose payload is present. -/
inductive Proper : Option Located → Prop where
  | none : Proper none
  | some (m : Located) : m.value ≠ .absent → Proper (some m)

theorem locate?_eq_transpose? (v : Value) (l : Location) :
    locate? v l = (Located.mk v l).transpose? := by
  cases v <;> rfl

theorem locate?_of_ne (h : v ≠ .absent) (l : Location) : locate? v l = some ⟨v, l⟩ := by
  rw [locate?_eq_transpose?]
  exact Located.transpose?_of_ne h

theorem strip_locate?_undone (v : Value) (l : Location) : strip (locate? v l) = v := by
  by_cases absent : v = .absent
  · rw [absent]
    rfl
  · rw [locate?_of_ne absent]
    rfl

theorem exists_split (h : Proper o) (present : o ≠ none) :
    ∃ l, (split o).2 = some l ∧ locate? (split o).1 l = o := by
  cases h with
  | none => exact absurd rfl present
  | some m value => exact ⟨m.location, rfl, locate?_of_ne value m.location⟩

/-- From the side of located values nothing is lost if the location is given again for an absent
one. -/
theorem toLocated_transpose? (m : Located) :
    toLocated m.transpose? (pure m.location) = pure m := by
  by_cases absent : m.value = .absent
  · rw [Located.transpose?_eq_none_iff.2 absent, toLocated, Outcome.pure_bind, ← absent]
  · rw [Located.transpose?_of_ne absent, toLocated]

/-- From the side of optional values nothing is lost if no located value is an absent one. -/
theorem exists_toLocated (h : Proper o) (returns : ask.Returns) :
    ∃ n, (toLocated o ask).result = .ok n ∧ n.transpose? = o := by
  cases h with
  | none =>
    obtain ⟨l, located⟩ := returns
    refine ⟨⟨.absent, l⟩, ?_, rfl⟩
    rw [toLocated, Outcome.bind_of_ok located]
    rfl
  | some m value => exact ⟨m, rfl, Located.transpose?_of_ne value⟩

/-- The location is asked for if there is no located value, so that a fault counts only there. -/
theorem toLocated_eq_error_iff {fault : Fault} : (toLocated o ask).result = .error fault ↔
    o = none ∧ ask.result = .error fault := by
  cases o with
  | none =>
    rw [toLocated, Outcome.result_bind_pure_eq_error_iff]
    exact (and_iff_right rfl).symm
  | some m =>
    constructor
    · intro h; cases h
    · rintro ⟨h, -⟩; cases h

theorem calls_toLocated_none (ask : Outcome Location) : (toLocated none ask).calls = ask.calls := by
  rw [toLocated, Outcome.calls_bind_pure]

/-- **Optional values convert to located ones and back without loss.** A located value that is
turned inside out is itself again if its location is given for an absent payload. A located value
that is missing or has its payload is itself again whatever location is given, and is made up of the
parts that it splits into, which are both missing if it is. A value that is located and stripped is
what it was. A located value is unwrapped to its transpose, which is itself unless its payload is
absent, and refused without one. The location for a missing value is asked for once then, and
otherwise never, so that only then its fault counts. Nothing but an absent payload is absent. -/
theorem optional_laws (m : Located) (o : Option Located) (v : Value) (l : Location)
    (ask : Outcome Location) :
    toLocated m.transpose? (pure m.location) = pure m ∧
    (Proper o → ask.Returns → ∃ n, (toLocated o ask).result = .ok n ∧ n.transpose? = o) ∧
    ((split o).1 = strip o ∧ split none = (.absent, none) ∧
      (Proper o → o ≠ none → ∃ p, (split o).2 = some p ∧ locate? (split o).1 p = o)) ∧
    (strip (locate? v l) = v ∧ locate? v l = (Located.mk v l).transpose?) ∧
    ((∀ fault, m.unwrap.result = .error fault ↔
        m.transpose? = none ∧ fault = .absentPayload m.location) ∧
      ∀ n, m.unwrap.result = .ok n ↔ m.transpose? = some n) ∧
    ((toLocated none ask.counted).calls = ask.calls + 1 ∧
      (∀ n, toLocated (some n) ask = pure n) ∧
      ∀ fault, (toLocated o ask).result = .error fault ↔ o = none ∧ ask.result = .error fault) ∧
    (m.transpose? = none ↔ m.value = .absent) ∧ ∀ n, m.transpose? = some n → n = m := by
  refine ⟨toLocated_transpose? m, exists_toLocated, ⟨?_, rfl, exists_split⟩,
    ⟨strip_locate?_undone v l, locate?_eq_transpose? v l⟩,
    ⟨fun fault => Located.unwrap_eq_error_iff, fun n => Located.unwrap_eq_ok_iff⟩,
    ⟨?_, fun n => rfl, fun fault => toLocated_eq_error_iff⟩,
    Located.transpose?_eq_none_iff, fun n => Located.eq_of_transpose?⟩
  · cases o <;> rfl
  · rw [calls_toLocated_none, Outcome.calls_counted]

/-- An empty list is a payload like any other: it is not asked where it would be if it were absent,
which would fail. -/
theorem optional_laws_empty :
    let l : Location := ⟨.text "f", ⟨3, 7⟩⟩
    let m : Located := ⟨.list [], l⟩
    let ask : Outcome Location := Outcome.counted (pure l)
    let refuse : Outcome Location := .fail (.failed "nowhere")
    (Proper (some m) ∧ ask.Returns ∧
      ∃ n, (toLocated (some m) ask).result = .ok n ∧ n.transpose? = some m) ∧
    (some m ≠ none ∧
      ∃ p, (split (some m)).2 = some p ∧ locate? (split (some m)).1 p = some m) ∧
    (Proper none ∧ ∃ n, (toLocated none ask).result = .ok n ∧ n.transpose? = none) ∧
    toLocated (some m) refuse = pure m ∧ m.unwrap.result = .ok m := by
  intro l m ask refuse
  have proper : Proper (some m) := .some m (by intro absent; cases absent)
  have asked : ask.Returns := ⟨l, rfl⟩
  have present : some m ≠ none := by intro absent; cases absent
  obtain ⟨-, turned, ⟨-, -, parts⟩, -⟩ := optional_laws m (some m) m.value l ask
  obtain ⟨-, missing, -⟩ := optional_laws m none m.value l ask
  obtain ⟨-, -, -, -, ⟨-, unwrapped⟩, ⟨-, kept, -⟩, -⟩ := optional_laws m none m.value l refuse
  exact ⟨⟨proper, asked, turned proper asked⟩, ⟨present, parts proper present⟩,
    ⟨.none, missing .none asked⟩, kept m, (unwrapped m).2 rfl⟩

end Optional
end Whereabouts
