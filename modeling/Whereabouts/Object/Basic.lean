import Whereabouts.Changing
import Whereabouts.Located.Basic

/-!
# Objects

A located value can be changed in place, so it matters whether two variables hold the same one or
two that are alike. An `Object` is a value in which every located value is a reference to a cell of
the `Heap`; everything else can not be changed and is written out. New cells come behind those that
are there, so that a reference keeps its meaning.

`Heap.value?` is the value that an object shows, which is what its references lead to. An object
shows nothing if one of its located values has come to hold itself.
-/
namespace Whereabouts

/-- The address of a located value. -/
abbrev Ref := Nat

inductive Object where
  | plain (v : Value) (undivided : v.atom?.isSome = true)
  | list (items : List Object)
  | tuple (items : List Object)
  | table (entries : List (Object × Object))
  | location (file : Object) (span : Span)
  | located (r : Ref)
  | ok (value : Object)
  | err (error : Object)
  | stripped (value : Object)
  | label (style : Label.Style) (file : Object) (span : Span) (message : String)

/-- A location by its file as an object. -/
structure Place where
  file : Object
  span : Span

/-- What is stored of a located value. -/
structure Cell where
  value : Object
  place : Place

abbrev Heap := List Cell

namespace Object

def absent : Object := .plain .absent rfl

def kind : Object → Kind
  | plain v _ => v.kind
  | list _ => .list
  | tuple _ => .tuple
  | table _ => .table
  | location .. => .location
  | located _ => .located
  | ok _ => .ok
  | err _ => .err
  | stripped _ => .stripped
  | label .. => .label

mutual

/-- The value of an object, by the values of the references in it. -/
def value? (look : Ref → Option Value) : Object → Option Value
  | plain v _ => some v
  | list items => (values? look items).map .list
  | tuple items => (values? look items).map .tuple
  | table entries => (entries? look entries).map .table
  | location file s => (file.value? look).map fun v => .location v s
  | located r => look r
  | ok value => (value.value? look).map .ok
  | err error => (error.value? look).map .err
  | stripped value => (value.value? look).map .stripped
  | label role file s message => (file.value? look).map fun v => .label role v s message

def values? (look : Ref → Option Value) : List Object → Option (List Value)
  | [] => some []
  | o :: os => (o.value? look).bind fun v => (values? look os).map fun vs => v :: vs

def entries? (look : Ref → Option Value) : List (Object × Object) → Option (List (Value × Value))
  | [] => some []
  | (k, o) :: entries => (k.value? look).bind fun key => (o.value? look).bind fun v =>
    (entries? look entries).map fun es => (key, v) :: es

end

end Object

def Place.toObject (p : Place) : Object := .location p.file p.span

def Cell.value? (look : Ref → Option Value) (c : Cell) : Option Value :=
  (c.value.value? look).bind fun v =>
    (c.place.file.value? look).map fun file => .located v file c.place.span

namespace Heap

/-- The value of the located value at an address, through so many cells at most. -/
def look? (h : Heap) : Nat → Ref → Option Value
  | 0, _ => none
  | n + 1, r => (h[r]?).bind (Cell.value? (h.look? n))

/-- The value that an object shows. Nothing that does not hold itself goes through more cells than
there are. -/
def value? (h : Heap) (o : Object) : Option Value := o.value? (h.look? h.length)

def values? (h : Heap) (os : List Object) : Option (List Value) :=
  Object.values? (h.look? h.length) os

end Heap

section Access

/-- Stores a new located value, and gives a reference to it. -/
def Cell.alloc (c : Cell) : Changing Heap Object := fun h => (pure (.located h.length), h ++ [c])

def Heap.cell (r : Ref) : Changing Heap Cell := fun h =>
  match h[r]? with
  | some c => (pure c, h)
  | none => (.fail (.misfit "a located value" .located), h)

def Heap.write (r : Ref) (c : Cell) : Changing Heap Unit := .modify fun h => h.set r c

/-- The value that an object shows now. -/
def Object.view (o : Object) : Changing Heap Value := fun h =>
  match h.value? o with
  | some v => (pure v, h)
  | none => (.fail (.misfit "a value that does not hold itself" o.kind), h)

/-- The location that a place shows now. -/
def Place.view (p : Place) : Changing Heap Location := do
  return ⟨← p.file.view, p.span⟩

def Object.asRef : Object → Outcome Ref
  | .located r => pure r
  | o => .fail (.misfit "a located value" o.kind)

def Object.asPlace : Object → Outcome Place
  | .location file s => pure ⟨file, s⟩
  | o => .fail (.misfit "a location" o.kind)

end Access

namespace Object

mutual

/-- The object of a value, in which every located value is a new one. -/
def ofValue : Value → Changing Heap Object
  | .list items => return .list (← ofValues items)
  | .tuple items => return .tuple (← ofValues items)
  | .table entries => return .table (← ofEntries entries)
  | .location file s => return .location (← ofValue file) s
  | .located value file s => do
    let value ← ofValue value
    let file ← ofValue file
    Cell.alloc ⟨value, file, s⟩
  | .ok value => return .ok (← ofValue value)
  | .err error => return .err (← ofValue error)
  | .stripped value => return .stripped (← ofValue value)
  | .label role file s message => return .label role (← ofValue file) s message
  | .absent => return absent
  | .bool b => return .plain (.bool b) rfl
  | .int n => return .plain (.int n) rfl
  | .float x => return .plain (.float x) rfl
  | .text s => return .plain (.text s) rfl
  | .bytes content => return .plain (.bytes content) rfl
  | .range p => return .plain (.range p) rfl
  | .span s => return .plain (.span s) rfl
  | .style role => return .plain (.style role) rfl

def ofValues : List Value → Changing Heap (List Object)
  | [] => return []
  | v :: vs => do
    let o ← ofValue v
    return o :: (← ofValues vs)

def ofEntries : List (Value × Value) → Changing Heap (List (Object × Object))
  | [] => return []
  | (k, v) :: entries => do
    let key ← ofValue k
    let o ← ofValue v
    return (key, o) :: (← ofEntries entries)

end

end Object
end Whereabouts
