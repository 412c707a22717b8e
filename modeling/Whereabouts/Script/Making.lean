import Whereabouts.Script.Operation
import Whereabouts.Script.Store

/-!
# What operations make

`Operation.act` is what an operation does to objects. It ends like the operation answers, with an
object for the value that is answered. What holds no located values is made anew from that value;
everything else goes on from the objects that the operation is given. Two operations write to a
located value that is there already, the others only store new ones.
-/
namespace Whereabouts

/-- The object of a value. A location keeps the file of the one that it was made from. -/
def Object.like (o : Object) (v : Value) : Changing Heap Object :=
  match o, v with
  | .location file _, .location _ s => return .location file s
  | _, v => ofValue v

def Object.asList : Object → Outcome (List Object)
  | .list items => pure items
  | o => .fail (.misfit "a list" o.kind)

/-- Objects with the values that they show. -/
def Object.viewAll : List Object → Changing Heap (List (Value × Object))
  | [] => return []
  | o :: os => do
    let v ← o.view
    return (v, o) :: (← viewAll os)

namespace Script

/-- The objects of an answer, made anew. -/
def madeFrom (answer : Outcome Reply) : Changing Heap Object := do
  let reply ← answer
  match reply.report.result? with
  | some v => Object.ofValue v
  | none => return .absent

/-- A function that is passed in, as one on objects. -/
def Callback.make (s : Store) : Callback → Changing Heap (Object → Changing Heap Object)
  | identity => return fun o => pure o
  | constant value => do
    let o ← value.make s
    return fun _ => pure o
  | pair => return fun o => pure (.tuple [o, o])
  | singleton => return fun o => pure (.list [o])
  | ok => return fun o => pure (.ok o)
  | err => return fun o => pure (.err o)
  | withFile file => do
    let file ← file.make s
    return fun o => do
      let p ← o.asPlace
      return .location file p.span
  | f => do
    let f ← f.resolve s.values
    return fun o => do o.like (← f (← o.view))

def PayloadMap.make (s : Store) : PayloadMap → Changing Heap (Object → Place → Changing Heap Object)
  | extract => return fun o p => do Object.ofValue (← extractFrom p.span (← o.view))
  | function f => do
    let f ← f.make s
    return fun o _ => f o

def EditTerm.make (s : Store) : EditTerm → Changing Heap Object.Edit
  | value v => return .value (← v.make s)
  | location l => return .location (← l.makePlace s)
  | span spanLike => return .span (← spanLike.eval s.values)
  | file v => return .file (← v.make s)

/-- Writes to a field of the located value at an address. -/
def assignAt (r : Ref) (field : String) (o : Object) : Changing Heap Unit :=
  if field = "value" then Heap.assignValue r o
  else if field = "location" then do Heap.assignLocation r (← o.asPlace)
  else Outcome.fail (.misfit "a located value with this field" .located)

def ValueOperation.act (s : Store) : ValueOperation → Changing Heap Object
  | union a b => do
    let o ← a.make s
    let w ← b.eval s.values
    o.like (← (← o.view).union w)
  | sort items => do
    let os ← (← items.make s).asList
    return .list ((← sortBy Prod.fst (← Object.viewAll os)).map Prod.snd)
  | distinct items => do
    let os ← (← items.make s).asList
    return .list ((← distinctBy .coarse Prod.fst (← Object.viewAll os)).map Prod.snd)
  | assign target field value => do
    let target ← target.make s
    let o ← value.make s
    match target with
    | .located r => do
      assignAt r field o
      return target
    | _ => Outcome.fail (.frozen field)
  | strip value => do (← value.make s).strip
  | op => madeFrom (op.run s.values)

def LocationOperation.act (s : Store) : LocationOperation → Changing Heap Object
  | make file spanLike => do
    let file ← file.make s
    let spanLike ← spanLike.eval s.values
    return .location file (← spanLike.toSpan)
  | union a b => do
    let p ← a.makePlace s
    let m ← b.place s.values
    return (← p.move fun l => l.union m).toObject
  | intersection a b => do
    let p ← a.makePlace s
    let m ← b.place s.values
    match (← p.view).intersection? m with
    | some l => return .location p.file l.span
    | none => return .absent
  | withFile location file => do
    let p ← location.makePlace s
    return .location (← file.make s) p.span
  | withSpan location spanLike => do
    let p ← location.makePlace s
    let spanLike ← spanLike.eval s.values
    return (← p.move fun l => l.withSpan spanLike).toObject
  | extend location spanLike => do
    let p ← location.makePlace s
    let spanLike ← spanLike.eval s.values
    return (← p.move fun l => l.extend spanLike).toObject
  | mapFile location f => do
    let p ← location.makePlace s
    let f ← f.make s
    return (← p.mapFile fun o => (f o).counted).toObject
  | withStop location stop => do
    let p ← location.makePlace s
    let stop ← stop.int s.values
    return (← p.move fun l => pure (l.withStop stop)).toObject
  | op => madeFrom (op.run s.values)

def LocatedOperation.act (s : Store) : LocatedOperation → Changing Heap Object
  | describe located => madeFrom ((describe located).run s.values)
  | replace located edit => do
    let r ← (← located.make s).asRef
    let edit ← edit.make s
    edit.run r
  | map located f => do
    let c ← located.makeCell s
    let f ← f.make s
    c.map fun o => (f o).counted
  | mapLocation located f => do
    let c ← located.makeCell s
    let f ← f.make s
    c.mapLocation fun p => do (← (f p.toObject).counted).asPlace
  | mapFile located f => do
    let c ← located.makeCell s
    let f ← f.make s
    c.mapFile fun o => (f o).counted
  | mapWithLocation located valueMap locationMap => do
    let c ← located.makeCell s
    let g ← valueMap.make s
    let f ← locationMap.make s
    c.mapWithLocation fun o p => .counted do
      let place ← (← f p.toObject).asPlace
      return { value := ← g o place, place }
  | tryMap located f => do
    let c ← located.makeCell s
    let f ← f.make s
    c.tryMap fun o => (f o).counted
  | unwrap located => do (← located.makeCell s).unwrap
  | transpose located => do (← located.makeCell s).transpose

/-- The call of a function that takes no argument and gives a location. -/
def askPlace (f : Object → Changing Heap Object) : Changing Heap Place := do
  (← (f .absent).counted).asPlace

def ContainerOperation.act (s : Store) : ContainerOperation → Changing Heap Object
  | locate value location => do
    let o ← value.make s
    Cell.alloc ⟨o, ← location.makePlace s⟩
  | locateOptional value location => do
    let o ← value.make s
    o.locate? (← location.makePlace s)
  | stripOptional optional => do
    return Object.stripOptional (← (← optional.make s).asOptional)
  | splitOptional optional => do
    return Object.splitOptional (← (← optional.make s).asOptional)
  | toLocated optional location => do
    let c ← (← optional.make s).asOptional
    let f ← location.make s
    Object.toLocated c (askPlace f)
  | locateResult result location => do
    let r ← result.make s
    r.locateResult (← location.makePlace s)
  | stripResult result => do (← result.make s).stripResult
  | splitResult result => do (← result.make s).splitResult
  | transposeResult located => do
    let c ← located.makeCell s
    c.value.locateResult c.place
  | locateError result location => do
    let r ← result.make s
    let f ← location.make s
    r.locateError (askPlace f)
  | mapError result f => do
    let r ← result.make s
    let f ← f.make s
    r.mapError fun o => (f o).counted

/-- A label in the file of a place. -/
def labelAt (role : Label.Style) (p : Place) (message : String) : Object :=
  .label role p.file p.span message

def LabelOperation.act (s : Store) : LabelOperation → Changing Heap Object
  | make style file start stop message => do
    let role ← asStyle (← style.eval s.values)
    let file ← file.make s
    let start ← start.int s.values
    let stop ← stop.int s.values
    return .label role file ⟨start, stop⟩ (← Term.textOr s.values "" message)
  | ofLocation style location message => do
    let role ← asStyle (← style.eval s.values)
    let p ← location.makePlace s
    return labelAt role p (← Term.textOr s.values "" message)
  | primary location message => do
    let p ← location.makePlace s
    return labelAt .primary p (← Term.textOr s.values "" message)
  | secondary location message => do
    let p ← location.makePlace s
    return labelAt .secondary p (← Term.textOr s.values "" message)
  | withMessage label message => do
    match ← label.make s with
    | .label role file span _ => return .label role file span (← message.text s.values)
    | o => Outcome.fail (.misfit "a label" o.kind)
  | op => madeFrom (op.run s.values)

def Operation.act (s : Store) : Operation → Changing Heap Object
  | onSpan op => madeFrom (op.run s.values)
  | onValue op => op.act s
  | onLocation op => op.act s
  | onLocated op => op.act s
  | onContainer op => op.act s
  | onLabel op => op.act s

end Script
end Whereabouts
