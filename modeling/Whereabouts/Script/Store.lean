import Whereabouts.Object.Located
import Whereabouts.Script.Term

namespace Whereabouts.Script

/-- Variables with the objects that they hold, and the located values of these. The first entry for
a name counts. Two variables can hold one located value. -/
structure Store where
  vars : List (String × Object) := []
  heap : Heap := []

namespace Store

/-- The values of the variables. One that shows nothing is left out, and hides no other. -/
def valuesIn (h : Heap) : List (String × Object) → Bindings
  | [] => []
  | (x, o) :: vars =>
    match h.value? o with
    | some v => (x, v) :: valuesIn h vars
    | none => (valuesIn h vars).filter fun e => e.1 != x

/-- The values that operations are answered from. -/
def values (s : Store) : Bindings := valuesIn s.heap s.vars

def object? (s : Store) (x : String) : Option Object := s.vars.lookup x

/-- The value that a variable shows. -/
def value? (s : Store) (x : String) : Option Value := (s.object? x).bind s.heap.value?

def set (s : Store) (x : String) (o : Object) : Store := { s with vars := (x, o) :: s.vars }

@[simp] theorem object?_set_self (s : Store) (x : String) (o : Object) :
    (s.set x o).object? x = some o := by
  simp [object?, set]

theorem object?_set_of_ne (s : Store) {x y : String} (o : Object) (h : y ≠ x) :
    (s.set x o).object? y = s.object? y := by
  have hne : (y == x) = false := by simpa using h
  rw [object?, set, List.lookup_cons, hne]
  rfl

end Store

namespace Term

mutual

/-- The object of a term. A variable gives what it holds, everything else is made. -/
def make (s : Store) : Term → Changing Heap Object
  | constant v => Object.ofValue v
  | name x =>
    match s.values.get? x, s.object? x with
    | some _, some o => return o
    | _, _ => Outcome.fail (.unbound x)
  | list items => return .list (← makeAll s items)
  | tuple items => return .tuple (← makeAll s items)
  | table entries => return .table (← makeEntries s entries)
  | location file spanLike => do
    let file ← file.make s
    let spanLike ← spanLike.eval s.values
    return .location file (← spanLike.toSpan)
  | located payload place => do
    let value ← payload.make s
    let place ← (← place.make s).asPlace
    Cell.alloc ⟨value, place⟩
  | ok value => return .ok (← value.make s)
  | err error => return .err (← error.make s)
  | stripped value => return .stripped (← value.make s)
  | label role file span message => do
    let role ← asStyle (← role.eval s.values)
    return .label role (← file.make s) span message

def makeAll (s : Store) : List Term → Changing Heap (List Object)
  | [] => return []
  | t :: ts => do
    let o ← t.make s
    return o :: (← makeAll s ts)

def makeEntries (s : Store) : List (Term × Term) → Changing Heap (List (Object × Object))
  | [] => return []
  | (key, value) :: entries => do
    let k ← key.make s
    let o ← value.make s
    return (k, o) :: (← makeEntries s entries)

end

variable (s : Store) (t : Term)

def makePlace : Changing Heap Place := do (← t.make s).asPlace

def makeCell : Changing Heap Cell := do (← t.make s).asCell

end Term
end Whereabouts.Script
