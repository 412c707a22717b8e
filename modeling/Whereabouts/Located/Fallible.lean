import Whereabouts.Located.Basic

namespace Whereabouts.Fallible

/-- The two sides of a result: a success with a payload, or a failure with an error. What is no
result is refused before anything else happens. -/
def sides : Value → Outcome (Except Value Value)
  | .ok value => pure (.ok value)
  | .err error => pure (.error error)
  | v => .fail (.notResult v.kind)

/-- The located value that a side of a result holds. -/
def located (v : Value) : Outcome Located :=
  match Located.ofValue? v with
  | some m => pure m
  | none => .fail (.misfit "a located value" v.kind)

def locate (r : Value) (l : Location) : Outcome Value := do
  match ← sides r with
  | .ok value => return .ok (Located.mk value l).toValue
  | .error _ => return r

def strip (r : Value) : Outcome Value := do
  match ← sides r with
  | .ok value => return .ok (← located value).value
  | .error _ => return r

/-- The result without the location, and the location if the result is a success. -/
def split (r : Value) : Outcome (Value × Option Location) := do
  match ← sides r with
  | .ok value =>
    let m ← located value
    return (.ok m.value, some m.location)
  | .error _ => return (r, none)

/-- Moves the location inside a located result. A failure loses it. -/
def transpose (m : Located) : Outcome Value := locate m.value m.location

/-- Locates an error. The location is asked for only if it is needed. -/
def locateError (r : Value) (l : Outcome Location) : Outcome Value := do
  match ← sides r with
  | .ok _ => return r
  | .error error => return .err (Located.mk error (← l)).toValue

/-- Maps a located error, which keeps its location. -/
def mapError (r : Value) (f : Value → Outcome Value) : Outcome Value := do
  match ← sides r with
  | .ok _ => return r
  | .error error => return .err (← (← located error).map f).toValue

end Whereabouts.Fallible
