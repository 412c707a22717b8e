import Whereabouts.Script.Callback
import Whereabouts.Script.Reply

namespace Whereabouts.Script

inductive LocationOperation where
  | make (file spanLike : Term)
  | describe (location : Term)
  | sameFile (a b : Term)
  | covers (a b : Term)
  | overlaps (a b : Term)
  | union (a b : Term)
  | intersection (a b : Term)
  | withFile (location file : Term)
  | withSpan (location spanLike : Term)
  | extend (location spanLike : Term)
  | mapFile (location : Term) (f : Callback)
  | withStop (location stop : Term)
deriving Repr

def locationFields (l : Location) : List (String × Value) :=
  [("file", l.file),
   ("span", .span l.span),
   ("parts", l.parts),
   ("format", .text l.format),
   ("str", .text l.toValue.display),
   ("repr", .text l.toValue.debug)]

def LocationOperation.run (vars : Bindings) : LocationOperation → Outcome Reply
  | make file spanLike => do
    let file ← file.eval vars
    let spanLike ← spanLike.eval vars
    return .location (← Location.ofParts file spanLike)
  | describe location => return .fields (locationFields (← location.place vars))
  | sameFile a b => do
    let a ← a.place vars
    return .bool (a.sameFile (← b.place vars))
  | covers a b => do
    let a ← a.place vars
    let b ← b.place vars
    return .bool (← a.covers b)
  | overlaps a b => do
    let a ← a.place vars
    return .bool (a.overlaps (← b.place vars))
  | union a b => do
    let a ← a.place vars
    let b ← b.place vars
    return .location (← a.union b)
  | intersection a b => do
    let a ← a.place vars
    return .option Location.toValue (a.intersection? (← b.place vars))
  | withFile location file => do
    let l ← location.place vars
    return .location (l.withFile (← file.eval vars))
  | withSpan location spanLike => do
    let l ← location.place vars
    let spanLike ← spanLike.eval vars
    return .location (← l.withSpan spanLike)
  | extend location spanLike => do
    let l ← location.place vars
    let spanLike ← spanLike.eval vars
    return .location (← l.extend spanLike)
  | mapFile location f => do
    let l ← location.place vars
    let f ← f.resolve vars
    return .called (← l.mapFile fun file => (f file).counted).toValue
  | withStop location stop => do
    let l ← location.place vars
    return .location (l.withStop (← stop.int vars))

end Whereabouts.Script
