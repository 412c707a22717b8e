import Whereabouts.Script.Reply
import Whereabouts.Script.Term
import Whereabouts.Value.Hashing
import Whereabouts.Value.Sorting

namespace Whereabouts.Script

inductive ValueOperation where
  | union (a b : Term)
  | intersection (a b : Term)
  | compare (a b : Term)
  | sort (items : Term)
  | distinct (items : Term)
  | display (value : Term)
  | debug (value : Term)
  | assign (target : Term) (field : String) (value : Term)
  | strip (value : Term)
  | strippedEq (a b : Term)
deriving Repr

/-- The answer to a relation, as part of a report. -/
def relationField (relation : Relation) (v w : Value) : String × Except Fault Value :=
  let name :=
    match relation with
    | .lt => "lt"
    | .le => "le"
    | .gt => "gt"
    | .ge => "ge"
  match v.relate relation w with
  | .ok answer => (name, .ok (.bool answer))
  | .error reason => (name, .error (.unordered reason))

def comparisonFields (v w : Value) : List (String × Except Fault Value) :=
  [("eq", .ok (.bool (v == w))),
   ("ne", .ok (.bool (v != w))),
   relationField .lt v w,
   relationField .le v w,
   relationField .gt v w,
   relationField .ge v w]

/-- Sorts items by their keys, or fails if two of these can not be compared. -/
def sortBy {α : Type} (key : α → Value) (items : List α) : Outcome (List α) :=
  match Value.sortOn? key items with
  | some sorted => pure sorted
  | none => .fail .unsortable

def sortValues (values : List Value) : Outcome (List Value) := sortBy id values

section Keys

variable {α : Type} (H : Hasher) (key : α → Value)

/-- Whether the item has this hash, and then equals `v`. -/
def keyedBy (a : α) (hash : Int) (v : Value) : Bool :=
  match H.hash (key a) with
  | .ok h => h == hash && key a == v
  | .error _ => false

/-- Puts one more item behind those that are kept, unless one of them has the same hash and is
equal. -/
def putKey (kept : List α) (a : α) : Outcome (List α) :=
  match H.hash (key a) with
  | .error kind => .fail (.unhashable kind)
  | .ok hash => pure (if kept.any (keyedBy H key · hash (key a)) then kept else kept ++ [a])

/-- Keeps the items that are put in one after the other, or fails at the first whose key has no
hash. -/
def distinctBy (items : List α) : Outcome (List α) := items.foldlM (putKey H key) []

end Keys

/-- The first of every class of equal values. -/
def distinctValues (H : Hasher) (values : List Value) : Outcome (List Value) :=
  distinctBy H id values

/-- Writes to a field of a located value. Only a location is taken as its location: what would be
left of it with a value of another kind there is no located value, and is left out. -/
def assignIn (field : String) (v : Value) : Located.InPlace Unit :=
  if field = "value" then Located.assignValue v
  else if field = "location" then do Located.assignLocation (← asLocation v)
  else Outcome.fail (.misfit "a located value with this field" .located)

/-- Writes to a field of a value. Only a located value has fields that can be written. -/
def assignField (target : Value) (field : String) (v : Value) : Outcome Value :=
  match Located.ofValue? target with
  | none => .fail (.frozen field)
  | some m => return (← (assignIn field v).leave m).toValue

def ValueOperation.run (vars : Bindings) : ValueOperation → Outcome Reply
  | union a b => do
    let v ← a.eval vars
    return .value (← v.union (← b.eval vars))
  | intersection a b => do
    let v ← a.eval vars
    return .value (← v.intersection (← b.eval vars))
  | compare a b => do
    let v ← a.eval vars
    let w ← b.eval vars
    return { report := .fields (comparisonFields v w) }
  | sort items => do
    let items ← items.items vars
    return .value (.list (← sortValues items))
  | distinct items => do
    let items ← items.items vars
    return .value (.list (← distinctValues .coarse items))
  | display value => return .text (← value.eval vars).display
  | debug value => return .text (← value.eval vars).debug
  | assign target field value => do
    let target ← target.eval vars
    let v ← value.eval vars
    return .value (← assignField target field v)
  | strip value => return .value (← value.eval vars).strip
  | strippedEq a b => do
    let v ← a.eval vars
    return .bool (v.strippedEq (← b.eval vars))

end Whereabouts.Script
