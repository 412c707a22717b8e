import Whereabouts.Changing
import Whereabouts.Located.Basic

/-!
# Changing a located value in place

A located value has two fields that can be written: its payload and its location. `Located.InPlace`
is a computation that reads and writes them.

The replacement of a part is such a computation. It gives back what the part was before. The span
and the file are no fields of their own: each of them is replaced by writing a location that keeps
the other.
-/
namespace Whereabouts.Located

abbrev InPlace (α : Type) : Type := Changing Located α

def assignValue (v : Value) : InPlace Unit := .modify fun m => { m with value := v }

def assignLocation (l : Location) : InPlace Unit := .modify fun m => { m with location := l }

def setValue (v : Value) : InPlace Value := do
  let old ← .read value
  assignValue v
  return old

def setLocation (l : Location) : InPlace Location := do
  let old ← .read location
  assignLocation l
  return old

def setSpan (spanLike : Value) : InPlace Span := do
  let old ← .read span
  let s ← spanLike.toSpan
  let l ← .read location
  assignLocation (← l.withSpan (.span s))
  return old

def setFile (v : Value) : InPlace Value := do
  let old ← .read file
  let l ← .read location
  assignLocation (l.withFile v)
  return old

theorem setSpan_fst (spanLike : Value) (m : Located) :
    (setSpan spanLike m).1 = do let _ ← spanLike.toSpan; return m.span := by
  rw [setSpan]
  generalize spanLike.toSpan = o
  obtain ⟨events, fault | s⟩ := o <;> rfl

/-- A span that is refused leaves the located value as it is. -/
theorem setSpan_snd (spanLike : Value) (m : Located) :
    (setSpan spanLike m).2 = match spanLike.toSpan.result with
      | .ok s => ⟨m.value, { m.location with span := s }⟩
      | .error _ => m := by
  rw [setSpan]
  generalize spanLike.toSpan = o
  obtain ⟨events, fault | s⟩ := o <;> rfl

/-- The replacement of one part. -/
inductive Edit where
  | value (v : Value)
  | location (l : Location)
  | span (spanLike : Value)
  | file (v : Value)
deriving Repr

/-- Replaces the part and gives back what it was. -/
def Edit.run : Edit → InPlace Value
  | value v => setValue v
  | location l => return (← setLocation l).toValue
  | span spanLike => return .span (← setSpan spanLike)
  | file v => setFile v

/-- What a replacement leaves: the part as it was before, and the located value now. -/
structure Replaced where
  previous : Value
  now : Located
deriving Repr

def InPlace.replaced (x : InPlace Value) (m : Located) : Outcome Replaced :=
  let (o, now) := x m
  do
    return ⟨← o, now⟩

end Whereabouts.Located
