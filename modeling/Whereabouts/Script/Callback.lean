import Whereabouts.Script.Term

namespace Whereabouts.Script

/-- The functions that a script can hand to a map. `upper` and `parseInt` know the letters and
digits of ASCII alone: another letter stays as it is, another digit can not be read. -/
inductive Callback where
  | identity
  | constant (value : Term)
  | fail (message : Term)
  | display
  | debug
  | length
  | increment
  | upper
  | pair
  | singleton
  | ok
  | err
  | parseInt
  | stopAt (stop : Term)
  | withSpan (spanLike : Term)
  | withFile (file : Term)
  | extend (spanLike : Term)
  | narrow (left right : Term)
deriving Repr

/-- The number of items, characters, bytes or terms in a value. -/
def lengthOf? : Value → Option Nat
  | .text s => some s.length
  | .style style => some style.text.length
  | .bytes content => some content.length
  | .list items => some items.length
  | .tuple items => some items.length
  | .table entries => some entries.length
  | .range p => some p.count
  | _ => none

/-- The number after a value, where a truth value counts as zero or one. -/
def successor? : Value → Option Int
  | .int n => some (n + 1)
  | .bool b => some (if b then 2 else 1)
  | _ => none

/-- Reads a number without sign, of the digits from 0 to 9. An unreadable text is a failure, not a
fault. -/
def readNumber (s : String) : Value :=
  if s ≠ "" ∧ s.toList.all Char.isDigit then
    .ok (.int (s.toList.foldl (fun n c => 10 * n + (c.toNat - '0'.toNat)) (0 : Nat)))
  else .err (.text ("not a number: " ++ Text.quoted s))

/-- Moves the bounds of a location towards each other. -/
def narrowed (left right : Int) (l : Location) : Location :=
  { l with span := ⟨l.span.start + left, l.span.stop - right⟩ }

/-- A function on locations, as one on values. -/
def onLocation (f : Location → Outcome Location) (v : Value) : Outcome Value := do
  return (← f (← asLocation v)).toValue

/-- Evaluates the arguments that were given with the name, and leaves a function of one value. -/
def Callback.resolve (vars : Bindings) : Callback → Outcome (Value → Outcome Value)
  | identity => return pure
  | constant value => do
    let v ← value.eval vars
    return fun _ => pure v
  | fail message => do
    let message ← message.text vars
    return fun _ => .fail (.failed message)
  | display => return fun v => pure (.text v.display)
  | debug => return fun v => pure (.text v.debug)
  | length => return fun v => return .int (← expect "a sequence" lengthOf? v)
  | increment => return fun v => return .int (← expect "an integer" successor? v)
  | upper => return fun v => return .text ((← asText v).map Char.toUpper)
  | pair => return fun v => pure (.tuple [v, v])
  | singleton => return fun v => pure (.list [v])
  | ok => return fun v => pure (.ok v)
  | err => return fun v => pure (.err v)
  | parseInt => return fun v => return readNumber (← asText v)
  | stopAt stop => do
    let stop ← stop.int vars
    return onLocation fun l => pure (l.withStop stop)
  | withSpan spanLike => do
    let spanLike ← spanLike.eval vars
    return onLocation fun l => l.withSpan spanLike
  | withFile file => do
    let file ← file.eval vars
    return onLocation fun l => pure (l.withFile file)
  | extend spanLike => do
    let spanLike ← spanLike.eval vars
    return onLocation fun l => l.extend spanLike
  | narrow left right => do
    let left ← left.int vars
    let right ← right.int vars
    return onLocation fun l => pure (narrowed left right l)

end Whereabouts.Script
