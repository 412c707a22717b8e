import Whereabouts.Script.Reply
import Whereabouts.Script.Term

namespace Whereabouts.Script

inductive LabelOperation where
  | readStyle (value : Term)
  | make (style file start stop : Term) (message : Option Term)
  | ofLocation (style location : Term) (message : Option Term)
  | primary (location : Term) (message : Option Term)
  | secondary (location : Term) (message : Option Term)
  | describe (label : Term)
  | withMessage (label message : Term)
  | mismatch (left right : Term) (operation : Option Term)
deriving Repr

def labelFields (l : Label) : List (String × Value) :=
  [("span", .span l.span),
   ("location", l.location.toValue),
   ("format", .text l.format),
   ("repr", .text l.toValue.debug)]

def mismatchFields (m : FileMismatch) : List (String × Value) :=
  [("left", m.left),
   ("right", m.right),
   ("operation", .text m.operation),
   ("str", .text m.message),
   ("repr", .text m.debug)]

def LabelOperation.run (vars : Bindings) : LabelOperation → Outcome Reply
  | readStyle value => do
    let v ← value.eval vars
    return .value (.style (← Label.Style.ofValue v))
  | make style file start stop message => do
    let style ← asStyle (← style.eval vars)
    let file ← file.eval vars
    let start ← start.int vars
    let stop ← stop.int vars
    let message ← Term.textOr vars "" message
    return .value (Label.mk style file ⟨start, stop⟩ message).toValue
  | ofLocation style location message => do
    let style ← asStyle (← style.eval vars)
    let l ← location.place vars
    return .value (Label.ofLocation style l (← Term.textOr vars "" message)).toValue
  | primary location message => do
    let l ← location.place vars
    return .value (Label.ofLocation .primary l (← Term.textOr vars "" message)).toValue
  | secondary location message => do
    let l ← location.place vars
    return .value (Label.ofLocation .secondary l (← Term.textOr vars "" message)).toValue
  | describe label => return .fields (labelFields (← label.diagnosticLabel vars))
  | withMessage label message => do
    let l ← label.diagnosticLabel vars
    return .value (l.withMessage (← message.text vars)).toValue
  | mismatch left right operation => do
    let left ← left.eval vars
    let right ← right.eval vars
    let operation ← Term.textOr vars "union" operation
    return .fields (mismatchFields { left, right, operation })

end Whereabouts.Script
