import Whereabouts.Located.Fallible
import Whereabouts.Located.InPlace
import Whereabouts.Proofs.Located.Optionals

namespace Whereabouts

open Value

/-- The outcome has a result, which is as a value the same as `v` without locations. -/
def Outcome.ReturnsStripped {α : Type} (view : α → Value) (o : Outcome α) (v : Value) : Prop :=
  ∃ a, o.result = .ok a ∧ (view a).strip = v.strip

namespace Located

variable (m : Located)

theorem strip_toValue : m.toValue.strip = m.value.strip := by rw [toValue, strip]

theorem strip_transpose? : (Optional.toValue m.transpose?).strip = m.toValue.strip := by
  by_cases absent : m.value = .absent
  · rw [transpose?_eq_none_iff.2 absent, strip_toValue, absent]
    rfl
  · rw [transpose?_of_ne absent, Optional.toValue]

theorem strip_unwrap {n : Located} (h : m.unwrap.result = .ok n) :
    n.toValue.strip = m.toValue.strip := by
  have same : n = m := eq_of_transpose? (unwrap_eq_ok_iff.1 h)
  rw [same]

theorem unwrap_returns (h : m.value ≠ .absent) : m.unwrap.Returns :=
  ⟨m, unwrap_eq_ok_iff.2 (transpose?_of_ne h)⟩

theorem strip_mapLocation {f : Location → Outcome Location} (h : (f m.location).Returns) :
    (m.mapLocation f).ReturnsStripped toValue m.toValue := by
  obtain ⟨l, h⟩ := h
  refine ⟨{ m with location := l }, ?_, ?_⟩
  · rw [mapLocation, Outcome.result_bind, h]
    rfl
  · rw [strip_toValue, strip_toValue]

theorem strip_mapFile {f : Value → Outcome Value} (h : (f m.file).Returns) :
    (m.mapFile f).ReturnsStripped toValue m.toValue := by
  obtain ⟨v, h⟩ := h
  refine m.strip_mapLocation ⟨m.location.withFile v, ?_⟩
  have h : (f m.location.file).result = .ok v := h
  rw [Location.mapFile, Outcome.result_bind, h]
  rfl

theorem strip_setLocation (l : Location) :
    (setLocation l m).2.toValue.strip = m.toValue.strip := by
  rw [strip_toValue, strip_toValue]
  rfl

theorem strip_setFile (v : Value) : (setFile v m).2.toValue.strip = m.toValue.strip := by
  rw [strip_toValue, strip_toValue]
  rfl

/-- Also where the span is refused. -/
theorem strip_setSpan (spanLike : Value) :
    (setSpan spanLike m).2.toValue.strip = m.toValue.strip := by
  rw [setSpan_snd, strip_toValue, strip_toValue]
  cases spanLike.toSpan.result <;> rfl

end Located

namespace Optional

theorem strip_locate? (v : Value) (l : Location) : (toValue (locate? v l)).strip = v.strip := by
  rw [locate?_eq_transpose?, Located.strip_transpose?, Located.strip_toValue]

variable (o : Option Located)

theorem strip_payload : (strip o).strip = (toValue o).strip := by
  cases o with
  | none => rfl
  | some m => exact m.strip_toValue.symm

theorem strip_fst_split : (split o).1.strip = (toValue o).strip := by
  cases o with
  | none => rfl
  | some m => exact m.strip_toValue.symm

theorem strip_toLocated {whenAbsent : Outcome Location} (h : whenAbsent.Returns) :
    (toLocated o whenAbsent).ReturnsStripped Located.toValue (toValue o) := by
  obtain ⟨l, h⟩ := h
  cases o with
  | none =>
    refine ⟨⟨.absent, l⟩, ?_, Located.strip_toValue _⟩
    rw [toLocated, Outcome.bind_of_ok h]
    rfl
  | some m => exact ⟨m, rfl, rfl⟩

end Optional

namespace Fallible

/-- A success or a failure. -/
inductive IsResult : Value → Prop where
  | ok (value : Value) : IsResult (.ok value)
  | err (error : Value) : IsResult (.err error)

/-- A success with a located payload, or a failure. -/
inductive IsLocatedResult : Value → Prop where
  | ok (m : Located) : IsLocatedResult (.ok m.toValue)
  | err (error : Value) : IsLocatedResult (.err error)

variable {r : Value}

theorem strip_ok_toValue (m : Located) : (Value.ok m.toValue).strip = (Value.ok m.value).strip := by
  rw [Value.strip, Value.strip, m.strip_toValue]

theorem strip_err_toValue (m : Located) :
    (Value.err m.toValue).strip = (Value.err m.value).strip := by
  rw [Value.strip, Value.strip, m.strip_toValue]

theorem strip_locate (h : IsResult r) (l : Location) : (locate r l).ReturnsStripped id r := by
  cases h with
  | ok value => exact ⟨_, rfl, strip_ok_toValue ⟨value, l⟩⟩
  | err error => exact ⟨_, rfl, rfl⟩

theorem locateError_err (error : Value) (l : Outcome Location) :
    locateError (.err error) l = do return .err (Located.mk error (← l)).toValue := by
  rw [locateError, sides, Outcome.pure_bind]

theorem strip_locateError (h : IsResult r) {l : Outcome Location} (returns : l.Returns) :
    (locateError r l).ReturnsStripped id r := by
  obtain ⟨place, returns⟩ := returns
  cases h with
  | ok value => exact ⟨_, rfl, rfl⟩
  | err error =>
    refine ⟨.err (Located.mk error place).toValue, ?_, strip_err_toValue ⟨error, place⟩⟩
    rw [locateError_err, Outcome.result_bind, returns]
    rfl

theorem strip_strip (h : IsLocatedResult r) : (strip r).ReturnsStripped id r := by
  cases h with
  | ok m => exact ⟨_, rfl, (strip_ok_toValue m).symm⟩
  | err error => exact ⟨_, rfl, rfl⟩

theorem strip_fst_split (h : IsLocatedResult r) : (split r).ReturnsStripped Prod.fst r := by
  cases h with
  | ok m => exact ⟨_, rfl, (strip_ok_toValue m).symm⟩
  | err error => exact ⟨_, rfl, rfl⟩

theorem strip_transpose {m : Located} (h : IsResult m.value) :
    (transpose m).ReturnsStripped id m.toValue := by
  obtain ⟨v, result, same⟩ := strip_locate h m.location
  exact ⟨v, result, same.trans m.strip_toValue.symm⟩

end Fallible

/-- **Moving locations is invisible to strip.** Locating a value, an optional value or either side
of a result, taking the location off again or to the other side, and replacing it in a map or in
place all leave what is there without locations. -/
theorem moves_invisible_to_strip (v : Value) (l : Location) (o : Option Located) (m : Located)
    (r q spanLike : Value) (ask : Outcome Location) (f : Location → Outcome Location)
    (g : Value → Outcome Value) :
    ((Located.mk v l).toValue.strip = v.strip ∧
      (Optional.toValue (Optional.locate? v l)).strip = v.strip) ∧
    ((Optional.strip o).strip = (Optional.toValue o).strip ∧
      (Optional.split o).1.strip = (Optional.toValue o).strip ∧
      (ask.Returns →
        (Optional.toLocated o ask).ReturnsStripped Located.toValue (Optional.toValue o))) ∧
    (Fallible.IsResult r → (Fallible.locate r l).ReturnsStripped id r ∧
      (ask.Returns → (Fallible.locateError r ask).ReturnsStripped id r)) ∧
    (Fallible.IsLocatedResult q → (Fallible.strip q).ReturnsStripped id q ∧
      (Fallible.split q).ReturnsStripped Prod.fst q) ∧
    (Fallible.IsResult m.value → (Fallible.transpose m).ReturnsStripped id m.toValue) ∧
    ((Optional.toValue m.transpose?).strip = m.toValue.strip ∧
      (m.value ≠ .absent → m.unwrap.Returns) ∧
      ∀ n, m.unwrap.result = .ok n → n.toValue.strip = m.toValue.strip) ∧
    (((f m.location).Returns → (m.mapLocation f).ReturnsStripped Located.toValue m.toValue) ∧
      ((g m.file).Returns → (m.mapFile g).ReturnsStripped Located.toValue m.toValue)) ∧
    (Located.setLocation l m).2.toValue.strip = m.toValue.strip ∧
    (Located.setSpan spanLike m).2.toValue.strip = m.toValue.strip ∧
    (Located.setFile v m).2.toValue.strip = m.toValue.strip := by
  refine ⟨⟨Located.strip_toValue _, Optional.strip_locate? v l⟩,
    ⟨Optional.strip_payload o, Optional.strip_fst_split o, Optional.strip_toLocated o⟩,
    ?_, ?_, Fallible.strip_transpose,
    ⟨m.strip_transpose?, m.unwrap_returns, fun n => m.strip_unwrap⟩,
    ⟨m.strip_mapLocation, m.strip_mapFile⟩,
    m.strip_setLocation l, m.strip_setSpan spanLike, m.strip_setFile v⟩
  · intro h
    exact ⟨Fallible.strip_locate h l, Fallible.strip_locateError h⟩
  · intro h
    exact ⟨Fallible.strip_strip h, Fallible.strip_fst_split h⟩

/-- A located success whose payload is located once more, and a failure that is located by a
function which returns. -/
theorem moves_invisible_to_strip_nested :
    let l : Location := ⟨.text "f", ⟨0, 2⟩⟩
    let inner : Located := ⟨.list [.absent], l⟩
    let m : Located := ⟨.ok inner.toValue, l⟩
    let failure := Value.err (.text "no")
    let ask : Outcome Location := Outcome.counted (pure l)
    let stop : Location → Outcome Location := fun l => pure (l.withStop 9)
    let name : Value → Outcome Value := fun file => pure (.tuple [file])
    (ask.Returns ∧ (Optional.toLocated none ask).ReturnsStripped Located.toValue .absent) ∧
    (Fallible.IsResult failure ∧ (Fallible.locateError failure ask).ReturnsStripped id failure) ∧
    (Fallible.IsLocatedResult m.value ∧ (Fallible.split m.value).ReturnsStripped Prod.fst m.value) ∧
    (Fallible.IsResult m.value ∧ (Fallible.transpose m).ReturnsStripped id m.toValue) ∧
    (m.value ≠ .absent ∧ m.unwrap.Returns) ∧
    ((stop m.location).Returns ∧
      (m.mapLocation stop).ReturnsStripped Located.toValue m.toValue) ∧
    (name m.file).Returns ∧ (m.mapFile name).ReturnsStripped Located.toValue m.toValue := by
  intro l inner m failure ask stop name
  have asked : ask.Returns := ⟨l, rfl⟩
  have failed : Fallible.IsResult failure := .err _
  have located : Fallible.IsLocatedResult m.value := .ok inner
  have result : Fallible.IsResult m.value := .ok _
  have present : m.value ≠ .absent := by intro h; cases h
  have stopped : (stop m.location).Returns := ⟨_, rfl⟩
  have named : (name m.file).Returns := ⟨_, rfl⟩
  obtain ⟨-, ⟨-, -, absent⟩, ofFailure, ofLocated, transposed, ⟨-, unwrapped, -⟩,
      ⟨mapped, mappedFile⟩, -⟩ :=
    moves_invisible_to_strip .absent l none m failure m.value .absent ask stop name
  exact ⟨⟨asked, absent asked⟩, ⟨failed, (ofFailure failed).2 asked⟩,
    ⟨located, (ofLocated located).2⟩, ⟨result, transposed result⟩, ⟨present, unwrapped present⟩,
    ⟨stopped, mapped stopped⟩, named, mappedFile named⟩

end Whereabouts
