import Whereabouts.Value.Equality
import Whereabouts.Value.Printing

namespace Whereabouts

/-- A span in a file. The file is any value; nothing is asked of it but whether it equals another
one. -/
structure Location where
  file : Value
  span : Span
deriving Repr, Inhabited

namespace Location

def toValue (l : Location) : Value := .location l.file l.span

def ofValue? : Value → Option Location
  | .location file span => some ⟨file, span⟩
  | _ => none

@[simp] theorem ofValue?_toValue (l : Location) : ofValue? l.toValue = some l := rfl

/-- The text of a position in a file. -/
def format (l : Location) : String := l.file.display ++ "@" ++ l.span.format

theorem display_toValue (l : Location) : l.toValue.display = l.format := by
  simp [toValue, format, Value.display]

def sameFile (a b : Location) : Bool := a.file == b.file

/-- The parts of a location as a pair. -/
def parts (l : Location) : Value := .tuple [l.file, .span l.span]

end Location
end Whereabouts
