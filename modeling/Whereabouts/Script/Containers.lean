import Whereabouts.Located.Fallible
import Whereabouts.Located.Optional
import Whereabouts.Script.Callback
import Whereabouts.Script.Reply

namespace Whereabouts.Script

inductive ContainerOperation where
  | locate (value location : Term)
  | locateOptional (value location : Term)
  | stripOptional (optional : Term)
  | splitOptional (optional : Term)
  | toLocated (optional : Term) (location : Callback)
  | locateResult (result location : Term)
  | stripResult (result : Term)
  | splitResult (result : Term)
  | transposeResult (located : Term)
  | locateError (result : Term) (location : Callback)
  | mapError (result : Term) (f : Callback)
deriving Repr

def Term.optional (vars : Bindings) (t : Term) : Outcome (Option Located) := do
  expect "a located value or nothing" Optional.ofValue? (← t.eval vars)

/-- The call of a function that takes no argument and gives a location. -/
def askLocation (f : Value → Outcome Value) : Outcome Location := do
  asLocation (← (f .absent).counted)

/-- A value paired with a location that may be missing. -/
def withOptionalLocation (v : Value) (l : Option Location) : Reply :=
  .value (.tuple [v, (l.map Location.toValue).getD .absent])

def ContainerOperation.run (vars : Bindings) : ContainerOperation → Outcome Reply
  | locate value location => do
    let v ← value.eval vars
    return .located ⟨v, ← location.place vars⟩
  | locateOptional value location => do
    let v ← value.eval vars
    return .value (Optional.toValue (Optional.locate? v (← location.place vars)))
  | stripOptional optional => return .value (Optional.strip (← optional.optional vars))
  | splitOptional optional => do
    let (v, l) := Optional.split (← optional.optional vars)
    return withOptionalLocation v l
  | toLocated optional location => do
    let o ← optional.optional vars
    let f ← location.resolve vars
    return .called (← Optional.toLocated o (askLocation f)).toValue
  | locateResult result location => do
    let r ← result.eval vars
    let l ← location.place vars
    return .value (← Fallible.locate r l)
  | stripResult result => do
    let r ← result.eval vars
    return .value (← Fallible.strip r)
  | splitResult result => do
    let r ← result.eval vars
    let (v, l) ← Fallible.split r
    return withOptionalLocation v l
  | transposeResult located => do
    let m ← located.locatedValue vars
    return .value (← Fallible.transpose m)
  | locateError result location => do
    let r ← result.eval vars
    let f ← location.resolve vars
    return .called (← Fallible.locateError r (askLocation f))
  | mapError result f => do
    let r ← result.eval vars
    let f ← f.resolve vars
    return .called (← Fallible.mapError r fun v => (f v).counted)

end Whereabouts.Script
