import Whereabouts.Floating
import Whereabouts.Progression

/-!
# Values

The values that locations are attached to. A file is any value, and so is a payload; both can hold
further locations at any depth. Besides plain data there are spans, locations, located values,
the two cases of a result, values wrapped to be compared without their locations, and labels.

Functions on values are defined by recursion over a value together with a list of values and a
list of table entries.
-/
namespace Whereabouts

/-- Whether a label marks the place a message is about or a place it refers to. -/
inductive Label.Style where
  | primary
  | secondary
deriving DecidableEq, Repr

namespace Label.Style

/-- The style by its text. -/
def text : Style → String
  | primary => "primary"
  | secondary => "secondary"

def ofText? (s : String) : Option Style :=
  if s = "primary" then some primary else if s = "secondary" then some secondary else none

@[simp] theorem ofText?_text (style : Style) : ofText? style.text = some style := by
  cases style <;> rfl

end Label.Style

inductive Value where
  | absent
  | bool (b : Bool)
  | int (n : Int)
  | float (x : Floating)
  | text (s : String)
  | bytes (content : List UInt8)
  | list (items : List Value)
  | tuple (items : List Value)
  /-- Entries in the order they were made. -/
  | table (entries : List (Value × Value))
  | range (p : Progression)
  | span (s : Span)
  /-- A span in a file. -/
  | location (file : Value) (span : Span)
  /-- A value with the location it was found at. -/
  | located (value file : Value) (span : Span)
  | ok (value : Value)
  | err (error : Value)
  /-- A value wrapped to be compared without the locations inside it. -/
  | stripped (value : Value)
  | style (s : Label.Style)
  | label (style : Label.Style) (file : Value) (span : Span) (message : String)
deriving Repr, Inhabited

/-- The kinds of value, one for each constructor. -/
inductive Kind where
  | absent
  | bool
  | int
  | float
  | text
  | bytes
  | list
  | tuple
  | table
  | range
  | span
  | location
  | located
  | ok
  | err
  | stripped
  | style
  | label
deriving DecidableEq, Repr

/-- The name of a kind in messages. -/
def Kind.name : Kind → String
  | absent => "NoneType"
  | bool => "bool"
  | int => "int"
  | float => "float"
  | text => "str"
  | bytes => "bytes"
  | list => "list"
  | tuple => "tuple"
  | table => "dict"
  | range => "range"
  | span => "Span"
  | location => "Location"
  | located => "Loc"
  | ok => "Ok"
  | err => "Err"
  | stripped => "Stripped"
  | style => "LabelStyle"
  | label => "Label"

namespace Value

def kind : Value → Kind
  | absent => .absent
  | bool _ => .bool
  | int _ => .int
  | float _ => .float
  | text _ => .text
  | bytes _ => .bytes
  | list _ => .list
  | tuple _ => .tuple
  | table _ => .table
  | range _ => .range
  | span _ => .span
  | location .. => .location
  | located .. => .located
  | ok _ => .ok
  | err _ => .err
  | stripped _ => .stripped
  | style _ => .style
  | label .. => .label

/-- The span of a value that has one: a span, a location, a located value or a label. -/
def span? : Value → Option Span
  | span s => some s
  | location _ s => some s
  | located _ _ s => some s
  | label _ _ s _ => some s
  | _ => none

end Value
end Whereabouts
