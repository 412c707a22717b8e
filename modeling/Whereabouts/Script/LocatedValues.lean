import Whereabouts.Script.Callback
import Whereabouts.Script.Spans

namespace Whereabouts.Script

/-- The part of a located value that is replaced, with a term for what comes in its place. -/
inductive EditTerm where
  | value (v : Term)
  | location (l : Term)
  | span (spanLike : Term)
  | file (v : Term)
deriving Repr

def EditTerm.eval (vars : Bindings) : EditTerm → Outcome Located.Edit
  | value v => return .value (← v.eval vars)
  | location l => return .location (← l.place vars)
  | span spanLike => return .span (← spanLike.eval vars)
  | file v => return .file (← v.eval vars)

/-- The replacement in place. What comes in is evaluated before anything is read or written. -/
def EditTerm.run (vars : Bindings) (edit : EditTerm) : Located.InPlace Value := do
  let edit ← edit.eval vars
  edit.run

/-- How a payload is mapped together with its location: by a function of its own, or by cutting
the span of the new location out of it. -/
inductive PayloadMap where
  | extract
  | function (f : Callback)
deriving Repr

/-- The map of payload and new location. -/
def PayloadMap.resolve (vars : Bindings) : PayloadMap → Outcome (Value → Location → Outcome Value)
  | extract => return fun v l => extractFrom l.span v
  | function f => do
    let f ← f.resolve vars
    return fun v _ => f v

inductive LocatedOperation where
  | describe (located : Term)
  | replace (located : Term) (edit : EditTerm)
  | map (located : Term) (f : Callback)
  | mapLocation (located : Term) (f : Callback)
  | mapFile (located : Term) (f : Callback)
  | mapWithLocation (located : Term) (valueMap : PayloadMap) (locationMap : Callback)
  | tryMap (located : Term) (f : Callback)
  | unwrap (located : Term)
  | transpose (located : Term)
deriving Repr

def locatedFields (m : Located) : List (String × Value) :=
  [("value", m.value),
   ("location", m.location.toValue),
   ("span", .span m.span),
   ("file", m.file),
   ("unpack", .tuple [m.value, m.location.toValue]),
   ("str", .text m.toValue.display),
   ("repr", .text m.toValue.debug)]

def LocatedOperation.run (vars : Bindings) : LocatedOperation → Outcome Reply
  | describe located => return .fields (locatedFields (← located.locatedValue vars))
  | replace located edit => do
    let m ← located.locatedValue vars
    return { report := .replaced (← (edit.run vars).replaced m) }
  | map located f => do
    let m ← located.locatedValue vars
    let f ← f.resolve vars
    return .called (← m.map fun v => (f v).counted).toValue
  | mapLocation located f => do
    let m ← located.locatedValue vars
    let f ← f.resolve vars
    return .called (← m.mapLocation fun l => do asLocation (← (f l.toValue).counted)).toValue
  | mapFile located f => do
    let m ← located.locatedValue vars
    let f ← f.resolve vars
    return .called (← m.mapFile fun file => (f file).counted).toValue
  | mapWithLocation located valueMap locationMap => do
    let m ← located.locatedValue vars
    let g ← valueMap.resolve vars
    let f ← locationMap.resolve vars
    let both := fun v (l : Location) => Outcome.counted do
      let location ← asLocation (← f l.toValue)
      return { value := ← g v location, location : Located }
    return .called (← m.mapWithLocation both).toValue
  | tryMap located f => do
    let m ← located.locatedValue vars
    let f ← f.resolve vars
    return .called (← m.tryMap fun v => (f v).counted)
  | unwrap located => do
    let m ← located.locatedValue vars
    return .located (← m.unwrap)
  | transpose located => return .option Located.toValue (← located.locatedValue vars).transpose?

end Whereabouts.Script
