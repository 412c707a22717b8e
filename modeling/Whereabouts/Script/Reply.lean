import Whereabouts.Located.InPlace

namespace Whereabouts.Script

/-- What an operation answers when it succeeds. -/
inductive Report where
  | value (v : Value)
  /-- Several named answers, each of which may be a fault of its own. -/
  | fields (entries : List (String × Except Fault Value))
  /-- A part of a located value was replaced. -/
  | replaced (r : Located.Replaced)

/-- A report, and whether it comes from an operation that takes a function. -/
structure Reply where
  report : Report
  counted : Bool := false

namespace Reply

def value (v : Value) : Reply := { report := .value v }

def bool (b : Bool) : Reply := value (.bool b)

def text (s : String) : Reply := value (.text s)

def span (s : Span) : Reply := value (.span s)

def location (l : Location) : Reply := value l.toValue

def located (m : Located) : Reply := value m.toValue

/-- A value that may be missing. -/
def option {α : Type} (toValue : α → Value) (o : Option α) : Reply :=
  value ((o.map toValue).getD .absent)

def fields (entries : List (String × Value)) : Reply :=
  { report := .fields (entries.map fun e => (e.1, .ok e.2)) }

/-- The reply of an operation that takes a function. -/
def called (v : Value) : Reply := { report := .value v, counted := true }

end Reply

/-- The value that a reply can be stored as. -/
def Report.result? : Report → Option Value
  | value v => some v
  | replaced r => some r.previous
  | fields _ => none

end Whereabouts.Script
