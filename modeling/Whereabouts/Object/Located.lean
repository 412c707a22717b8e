import Whereabouts.Located.InPlace
import Whereabouts.Object.Basic

namespace Whereabouts

namespace Place

/-- Moves a place like a function on locations does. The file stays the same object. -/
def move (p : Place) (f : Location → Outcome Location) : Changing Heap Place := do
  let l ← f (← p.view)
  return { p with span := l.span }

def mapFile (p : Place) (f : Object → Changing Heap Object) : Changing Heap Place := do
  return { p with file := ← f p.file }

/-- The place at the span that a value stands for, which is converted twice. -/
def withSpan (p : Place) (spanLike : Value) : Outcome Place := do
  let s ← spanLike.toSpan
  return { p with span := ← (Value.span s).toSpan }

end Place

def Object.asCell (o : Object) : Changing Heap Cell := do
  Heap.cell (← o.asRef)

namespace Cell

/-- Like the other maps this stores a new located value and leaves the one it is given as it is. A
payload or a file that is passed on stays the same object, with whatever is inside it. -/
def map (c : Cell) (f : Object → Changing Heap Object) : Changing Heap Object := do
  alloc { c with value := ← f c.value }

def mapLocation (c : Cell) (f : Place → Changing Heap Place) : Changing Heap Object := do
  alloc { c with place := ← f c.place }

def mapFile (c : Cell) (f : Object → Changing Heap Object) : Changing Heap Object :=
  c.mapLocation fun p => p.mapFile f

def mapWithLocation (c : Cell) (f : Object → Place → Changing Heap Cell) :
    Changing Heap Object := do
  alloc (← f c.value c.place)

def tryMap (c : Cell) (f : Object → Changing Heap Object) : Changing Heap Object := do
  match ← f c.value with
  | .ok value => return .ok (← alloc { c with value })
  | .err error => return .err error
  | o => Outcome.fail (.notResult o.kind)

def transpose (c : Cell) : Changing Heap Object :=
  match c.value with
  | .plain .absent _ => return .absent
  | _ => alloc c

def unwrap (c : Cell) : Changing Heap Object :=
  match c.value with
  | .plain .absent _ => do Outcome.fail (.absentPayload (← c.place.view))
  | _ => alloc c

end Cell

namespace Object

/-- The located value that an optional one is, if it is there. -/
def asOptional (o : Object) : Changing Heap (Option Cell) :=
  match o with
  | .plain .absent _ => return none
  | .located r => return some (← Heap.cell r)
  | o => Outcome.fail (.misfit "a located value or nothing" o.kind)

def locate? (o : Object) (p : Place) : Changing Heap Object :=
  match o with
  | .plain .absent _ => return .absent
  | _ => Cell.alloc ⟨o, p⟩

def stripOptional : Option Cell → Object
  | none => absent
  | some c => c.value

def splitOptional : Option Cell → Object
  | none => .tuple [absent, absent]
  | some c => .tuple [c.value, c.place.toObject]

def toLocated (c : Option Cell) (whenAbsent : Changing Heap Place) : Changing Heap Object :=
  match c with
  | none => do Cell.alloc ⟨absent, ← whenAbsent⟩
  | some c => Cell.alloc c

/-- The two sides of a result. -/
def sides : Object → Outcome (Except Object Object)
  | .ok value => pure (.ok value)
  | .err error => pure (.error error)
  | o => .fail (.notResult o.kind)

def locateResult (r : Object) (p : Place) : Changing Heap Object := do
  match ← r.sides with
  | .ok value => return .ok (← Cell.alloc ⟨value, p⟩)
  | .error _ => return r

def stripResult (r : Object) : Changing Heap Object := do
  match ← r.sides with
  | .ok value => return .ok (← value.asCell).value
  | .error _ => return r

def splitResult (r : Object) : Changing Heap Object := do
  match ← r.sides with
  | .ok value => do
    let c ← value.asCell
    return .tuple [.ok c.value, c.place.toObject]
  | .error _ => return .tuple [r, absent]

def locateError (r : Object) (p : Changing Heap Place) : Changing Heap Object := do
  match ← r.sides with
  | .ok _ => return r
  | .error error => return .err (← Cell.alloc ⟨error, ← p⟩)

def mapError (r : Object) (f : Object → Changing Heap Object) : Changing Heap Object := do
  match ← r.sides with
  | .ok _ => return r
  | .error error => return .err (← (← error.asCell).map f)

mutual

/-- The object without located values, by what the payloads of the references in it are. -/
def strip? (look : Ref → Option Object) : Object → Option Object
  | .located r => look r
  | .list items => (stripAll? look items).map .list
  | .tuple items => (stripAll? look items).map .tuple
  | .table entries => (stripEntries? look entries).map .table
  | .ok value => (value.strip? look).map .ok
  | .err error => (error.strip? look).map .err
  | o => some o

def stripAll? (look : Ref → Option Object) : List Object → Option (List Object)
  | [] => some []
  | o :: os => (o.strip? look).bind fun p => (stripAll? look os).map fun ps => p :: ps

def stripEntries? (look : Ref → Option Object) :
    List (Object × Object) → Option (List (Object × Object))
  | [] => some []
  | (k, o) :: entries => (o.strip? look).bind fun p =>
    (stripEntries? look entries).map fun es => (k, p) :: es

end

end Object

namespace Heap

/-- What is left of the payload of the located value at an address. -/
def stripAt? (h : Heap) : Nat → Ref → Option Object
  | 0, _ => none
  | n + 1, r => (h[r]?).bind fun c => c.value.strip? (h.stripAt? n)

end Heap

/-- Takes every located value that can be reached for its payload. -/
def Object.strip (o : Object) : Changing Heap Object := fun h =>
  match o.strip? (h.stripAt? h.length) with
  | some p => (pure p, h)
  | none => (.fail (.misfit "a value that does not hold itself" o.kind), h)

namespace Heap

def assignValue (r : Ref) (o : Object) : Changing Heap Unit := do
  write r { ← cell r with value := o }

def assignLocation (r : Ref) (p : Place) : Changing Heap Unit := do
  write r { ← cell r with place := p }

def setValue (r : Ref) (o : Object) : Changing Heap Object := do
  let old := (← cell r).value
  assignValue r o
  return old

def setLocation (r : Ref) (p : Place) : Changing Heap Object := do
  let old := (← cell r).place
  assignLocation r p
  return old.toObject

def setSpan (r : Ref) (spanLike : Value) : Changing Heap Object := do
  let old := (← cell r).place.span
  let s ← spanLike.toSpan
  let p := (← cell r).place
  assignLocation r (← p.withSpan (.span s))
  return .plain (.span old) rfl

def setFile (r : Ref) (o : Object) : Changing Heap Object := do
  let old := (← cell r).place.file
  let p := (← cell r).place
  assignLocation r { p with file := o }
  return old

end Heap

/-- The replacement of one part of a located value. -/
inductive Object.Edit where
  | value (o : Object)
  | location (p : Place)
  | span (spanLike : Value)
  | file (o : Object)

/-- Replaces the part of the located value at an address, and gives back what it was. -/
def Object.Edit.run (r : Ref) : Object.Edit → Changing Heap Object
  | value o => Heap.setValue r o
  | location p => Heap.setLocation r p
  | span spanLike => Heap.setSpan r spanLike
  | file o => Heap.setFile r o

end Whereabouts
