import Whereabouts.Location.Combine

namespace Whereabouts

/-- A payload with the location it was found at. The maps make a new located value, and a payload
that is changed keeps its location unless both are mapped together. -/
structure Located where
  value : Value
  location : Location
deriving Repr, Inhabited

namespace Located

def toValue (m : Located) : Value := .located m.value m.location.file m.location.span

def ofValue? : Value → Option Located
  | .located value file span => some ⟨value, file, span⟩
  | _ => none

@[simp] theorem ofValue?_toValue (m : Located) : ofValue? m.toValue = some m := rfl

theorem ofValue?_eq_some_iff {v : Value} {m : Located} : ofValue? v = some m ↔ v = m.toValue := by
  constructor
  · intro h
    cases v with
    | located value file span => cases h; rfl
    | _ => cases h
  · rintro rfl
    rfl

def file (m : Located) : Value := m.location.file

def span (m : Located) : Span := m.location.span

def map (m : Located) (f : Value → Outcome Value) : Outcome Located := do
  return { m with value := ← f m.value }

def mapLocation (m : Located) (f : Location → Outcome Location) : Outcome Located := do
  return { m with location := ← f m.location }

def mapFile (m : Located) (f : Value → Outcome Value) : Outcome Located :=
  m.mapLocation fun l => l.mapFile f

/-- Maps the payload and the location together. -/
def mapWithLocation (m : Located) (f : Value → Location → Outcome Located) : Outcome Located :=
  f m.value m.location

/-- Maps the payload by a function that gives a result. A success keeps the location, a failure
is passed on without it. -/
def tryMap (m : Located) (f : Value → Outcome Value) : Outcome Value := do
  match ← f m.value with
  | .ok value => return .ok { m with value := value : Located }.toValue
  | .err error => return .err error
  | v => .fail (.notResult v.kind)

/-- The located value, unless its payload is absent. -/
def transpose? (m : Located) : Option Located :=
  match m.value with
  | .absent => none
  | _ => some m

/-- The located value; fails if its payload is absent. -/
def unwrap (m : Located) : Outcome Located :=
  match m.value with
  | .absent => .fail (.absentPayload m.location)
  | _ => pure m

end Located
end Whereabouts
