import Whereabouts.Located.Basic
import Whereabouts.Label

namespace Whereabouts.Script

/-- Variables with their values. The first entry for a name counts. -/
abbrev Bindings := List (String × Value)

def Bindings.get? (vars : Bindings) (x : String) : Option Value := vars.lookup x

/-- A description of a value, which may name variables. Its parts are evaluated from left to right.
A location may give its span by any value that stands for one, and if that is refused the term has
no value. -/
inductive Term where
  | constant (v : Value)
  | name (x : String)
  | list (items : List Term)
  | tuple (items : List Term)
  | table (entries : List (Term × Term))
  | location (file spanLike : Term)
  | located (value location : Term)
  | ok (value : Term)
  | err (error : Term)
  | stripped (value : Term)
  | label (style file : Term) (span : Span) (message : String)
deriving Repr

/-- What `view` makes of a value; fails where it makes nothing. -/
def expect {α : Type} (what : String) (view : Value → Option α) (v : Value) : Outcome α :=
  match view v with
  | some a => pure a
  | none => .fail (.misfit what v.kind)

def asInt : Value → Outcome Int :=
  expect "an integer" fun
    | .int n => some n
    | _ => none

def asText : Value → Outcome String :=
  expect "a text" fun
    | .text s => some s
    | _ => none

def asList : Value → Outcome (List Value) :=
  expect "a list" fun
    | .list items => some items
    | _ => none

def asRange : Value → Outcome Progression :=
  expect "a range" fun
    | .range p => some p
    | _ => none

def asStyle : Value → Outcome Label.Style :=
  expect "a style" fun
    | .style style => some style
    | _ => none

def asSpan : Value → Outcome Span :=
  expect "a span" fun
    | .span s => some s
    | _ => none

def asLocation : Value → Outcome Location := expect "a location" Location.ofValue?

def asLocated : Value → Outcome Located := expect "a located value" Located.ofValue?

def asLabel : Value → Outcome Label := expect "a label" Label.ofValue?

namespace Term

mutual

def eval (vars : Bindings) : Term → Outcome Value
  | constant v => pure v
  | name x =>
    match vars.get? x with
    | some v => pure v
    | none => .fail (.unbound x)
  | list items => return .list (← evalAll vars items)
  | tuple items => return .tuple (← evalAll vars items)
  | table entries => return .table (← evalEntries vars entries)
  | location file spanLike => do
    let file ← file.eval vars
    let spanLike ← spanLike.eval vars
    return (← Location.ofParts file spanLike).toValue
  | located payload place => do
    let v ← payload.eval vars
    let l ← asLocation (← place.eval vars)
    return (Located.mk v l).toValue
  | ok value => return .ok (← value.eval vars)
  | err error => return .err (← error.eval vars)
  | stripped value => return .stripped (← value.eval vars)
  | label role file span message => do
    let role ← asStyle (← role.eval vars)
    let file ← file.eval vars
    return .label role file span message

def evalAll (vars : Bindings) : List Term → Outcome (List Value)
  | [] => pure []
  | t :: ts => do
    let v ← t.eval vars
    return v :: (← evalAll vars ts)

def evalEntries (vars : Bindings) : List (Term × Term) → Outcome (List (Value × Value))
  | [] => pure []
  | (key, value) :: entries => do
    let k ← key.eval vars
    let v ← value.eval vars
    return (k, v) :: (← evalEntries vars entries)

end

variable (vars : Bindings) (t : Term)

def int : Outcome Int := do asInt (← t.eval vars)

def text : Outcome String := do asText (← t.eval vars)

def items : Outcome (List Value) := do asList (← t.eval vars)

def span : Outcome Span := do asSpan (← t.eval vars)

def place : Outcome Location := do asLocation (← t.eval vars)

def locatedValue : Outcome Located := do asLocated (← t.eval vars)

def diagnosticLabel : Outcome Label := do asLabel (← t.eval vars)

/-- The value of an argument that may be left out. -/
def textOr (fallback : String) : Option Term → Outcome String
  | none => pure fallback
  | some t => t.text vars

def intOr (fallback : Int) : Option Term → Outcome Int
  | none => pure fallback
  | some t => t.int vars

end Term
end Whereabouts.Script
